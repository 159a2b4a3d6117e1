import CourtroomGateway.Config.Yaml.Event
import CourtroomGateway.Config.Yaml.Lexer

/-! From events to a tree. Anchors are numbered, links refer to the numbers, and the tree is put
together from the last event to the first. -/

namespace CourtroomGateway.Config.Yaml

/-- Numbers the anchors by how many names there are so far, an anchor of a known name too; a link
refers to the last anchor of its name before it. -/
def number? (names : List (List Char × Nat)) : Walk → Option (List (Event Nat))
  | [] => some []
  | e :: es =>
    let rename (anchor : Option (List Char)) : Option Nat × List (List Char × Nat) :=
      match anchor with
      | none => (none, names)
      | some name => (names.length, (name, names.length) :: names.filter (·.1 ≠ name))
    match e with
    | .scalar anchor s =>
      let (anchor, names) := rename anchor
      (number? names es).map (.scalar anchor s :: ·)
    | .link name => do
      let target ← names.lookup name
      return .link target :: (← number? names es)
    | .listStart anchor =>
      let (anchor, names) := rename anchor
      (number? names es).map (.listStart anchor :: ·)
    | .listEnd => (number? names es).map (.listEnd :: ·)
    | .mapStart anchor =>
      let (anchor, names) := rename anchor
      (number? names es).map (.mapStart anchor :: ·)
    | .mapEnd => (number? names es).map (.mapEnd :: ·)

/-- The nodes put together so far: those of the innermost collection and of the ones around it,
and those with an anchor. -/
structure Grove where
  level : List Node := []
  around : List (List Node) := []
  anchored : List (Nat × Node) := []

/-- Keys and values that alternate, as entries. -/
def pairs : List Node → List (Node × Node)
  | key :: value :: rest => (key, value) :: pairs rest
  | _ => []

namespace Grove

/-- Puts a node before the others. -/
def put (anchor : Option Nat) (n : Node) (g : Grove) : Grove :=
  { g with
    level := n :: g.level
    anchored := (anchor.map (·, n)).toList ++ g.anchored }

/-- The collection that the innermost nodes are in, as a node among those around. -/
def close (anchor : Option Nat) (collect : List Node → Node) (g : Grove) : Grove :=
  let n := collect g.level
  match g.around with
  | [] => put anchor n { g with level := [] }
  | level :: around => put anchor n { g with level, around }

/-- What an event does to the nodes after it. -/
def add (e : Event Nat) (g : Grove) : Grove :=
  match e with
  | .scalar anchor s => g.put anchor (.scalar s)
  | .link target => g.put none (.link target)
  | .listEnd | .mapEnd => { g with level := [], around := g.level :: g.around }
  | .listStart anchor => g.close anchor .list
  | .mapStart anchor => g.close anchor (.map ∘ pairs)

end Grove

/-- Of two nodes with one number the one that begins later in the text counts. A document may be
read along a hundred times as many links as it has events. -/
def Document.ofEvents? (es : List (Event Nat)) : Option Document :=
  let grove := es.foldr Grove.add {}
  grove.level.head?.map fun root =>
    { root, targets := grove.anchored.reverse, patience := 100 * es.length }

/-- The document that a text is. A text without content is none. -/
def document? (text : String) : Option Document := do
  Document.ofEvents? (← number? [] (← events? (← tokens? (← glyphs? text))))

end CourtroomGateway.Config.Yaml
