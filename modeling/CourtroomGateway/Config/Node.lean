import CourtroomGateway.Text.Integer

/-! Configuration documents as trees. A scalar keeps its text, its style and its tag, and what it
means depends on what is wanted in its place; the values of documents with typed scalars have a
type of their own. A link stands for another node of the same document. -/

namespace CourtroomGateway.Config

inductive Style
  | plain | quoted | literal | folded
deriving Repr, DecidableEq

/-- What a tag says of a scalar, as far as it matters here. -/
inductive Tag
  | null | int | other
deriving Repr, DecidableEq

structure Scalar where
  text : String
  style : Style
  tag : Option Tag := none
deriving Repr, DecidableEq

inductive Node
  | null
  | bool (value : Bool)
  | int (value : Int)
  | real
  | scalar (s : Scalar)
  | list (items : List Node)
  | map (entries : List (Node × Node))
  | link (target : Nat)
deriving Repr, Inhabited

/-- A tree, the nodes that its links stand for, and how many links may be followed while it is
read. -/
structure Document where
  root : Node
  targets : List (Nat × Node) := []
  patience : Nat := 0

/-- A tree that cannot be read as what was wanted. -/
inductive Mismatch
  | unknownField (name : String) (known : List String)
  | missingField (name : String)
  | duplicateField (name : String)
  | tooManyLinks
  | shape
deriving Repr, DecidableEq

namespace Mismatch

def mark (name : String) : String := "`" ++ name ++ "`"

/-- The names, as alternatives. -/
def alternatives : List String → String
  | [] => "there are no fields"
  | [a] => "expected " ++ mark a
  | [a, b] => "expected " ++ mark a ++ " or " ++ mark b
  | names => "expected one of " ++ String.intercalate ", " (names.map mark)

/-- The wording of a fault in the field names; the other faults have none. -/
def message? : Mismatch → Option String
  | unknownField name known => some ("unknown field " ++ mark name ++ ", " ++ alternatives known)
  | missingField name => some ("missing field " ++ mark name)
  | duplicateField _ | tooManyLinks | shape => none

end Mismatch

/-- What reading a tree needs besides the tree: the targets of its links, and how many links may
still be followed. -/
structure Links where
  targets : List (Nat × Node)
  patience : Nat

abbrev Reading := StateT Links (Except Mismatch)

/-- What a reading of the whole document gives. -/
def Document.read {α : Type} (d : Document) (reading : Node → Reading α) : Except Mismatch α :=
  ((reading d.root).run ⟨d.targets, d.patience⟩).map (·.1)

namespace Scalar

/-- No characters and no quotes around them, which stands for any empty value. -/
def isVoid (s : Scalar) : Bool := s.style = .plain && s.text = ""

def spellsNull (s : Scalar) : Bool := ["~", "null", "Null", "NULL"].contains s.text

/-- Whether the scalar is there where a value may be missing: quoted text always is, plain text
unless it is empty or spells null. Under a null tag it must spell null, and under another tag it
is always there. -/
def isPresent (s : Scalar) : Except Mismatch Bool :=
  if s.style ≠ .plain then .ok true
  else
    match s.tag with
    | none => .ok (s.text ≠ "" && !s.spellsNull)
    | some .null => if s.spellsNull then .ok false else .error .shape
    | some _ => .ok true

/-- Whether the text may be read as a number: it stands without quotes, or in literal style under
an integer tag. -/
def mayBeNumber (s : Scalar) : Bool :=
  s.style = .plain || (s.style = .literal && s.tag = some .int)

end Scalar

namespace Node

/-- Text in quotes. -/
def quoted (text : String) : Node := .scalar { text, style := .quoted }

/-- The node itself, or what it is a link to. -/
def follow : Node → Reading Node
  | .link target => do
    let links ← get
    match links.patience, links.targets.lookup target with
    | patience + 1, some n =>
      set { links with patience }
      return n
    | _, _ => throw .tooManyLinks
  | n => return n

def text (n : Node) : Reading String := do
  match ← n.follow with
  | .scalar s => return s.text
  | _ => throw .shape

/-- Text, or nothing for a null. -/
def optionalText (n : Node) : Reading (Option String) := do
  match ← n.follow with
  | .null => return none
  | .scalar s => return if ← s.isPresent then some s.text else none
  | _ => throw .shape

/-- A number up to the highest, without sign: at most one plus, then digits in the radix that
`0x`, `0o` or `0b` announces, or decimal digits that do not begin with a needless zero. -/
def unsigned? (highest : Nat) (s : String) : Option Nat :=
  let body :=
    match s.toList with
    | '+' :: cs => cs
    | cs => cs
  match body with
  | '0' :: 'x' :: cs => Text.digitsIn? 16 highest cs
  | '0' :: 'o' :: cs => Text.digitsIn? 8 highest cs
  | '0' :: 'b' :: cs => Text.digitsIn? 2 highest cs
  | '0' :: _ :: _ => none
  | cs => Text.digitsIn? 10 highest cs

/-- A number from zero to `highest`. -/
def unsigned (highest : Nat) (n : Node) : Reading Nat := do
  let value? : Option Nat :=
    match ← n.follow with
    | .int i => if 0 ≤ i ∧ i ≤ highest then some i.toNat else none
    | .scalar s => if s.mayBeNumber then unsigned? highest s.text else none
    | _ => none
  match value? with
  | some value => return value
  | none => throw .shape

def items (n : Node) : Reading (List Node) := do
  match ← n.follow with
  | .list items => return items
  | .scalar s => if s.isVoid then return [] else throw .shape
  | _ => throw .shape

def texts (n : Node) : Reading (List String) := do
  (← n.items).mapM text

end Node

/-- How a record is read from a tree: its field names in order, the ones that have to be there,
and the effect of a field on a record under construction. -/
structure Section (α : Type) where
  fields : List String
  required : List String
  blank : α
  set : String → Node → α → Reading α

namespace Section
variable {α : Type}

/-- Reads the entries in the order given, and reports the first that does not fit. -/
def entries (s : Section α) (seen : List String) (record : α) :
    List (Node × Node) → Reading α
  | [] =>
    match s.required.find? (· ∉ seen) with
    | some name => throw (.missingField name)
    | none => return record
  | (key, value) :: rest => do
    let name ← key.text
    if name ∉ s.fields then throw (.unknownField name s.fields)
    if name ∈ seen then throw (.duplicateField name)
    s.entries (name :: seen) (← s.set name value record) rest

/-- Reads values that stand in the order of the fields. -/
def positions (s : Section α) (record : α) : List String → List Node → Reading α
  | [], [] => return record
  | [], _ :: _ => throw .shape
  | name :: names, [] =>
    if name ∈ s.required then throw .shape else s.positions record names []
  | name :: names, value :: values => do
    s.positions (← s.set name value record) names values

/-- Reads a record from a map or, in documents that allow it, from a list. -/
def ofNode (s : Section α) (positional : Bool) (n : Node) : Reading α := do
  match ← n.follow with
  | .map entries => s.entries [] s.blank entries
  | .list items => if positional then s.positions s.blank s.fields items else throw .shape
  | .scalar v => if v.isVoid then s.entries [] s.blank [] else throw .shape
  | _ => throw .shape

def listOfNode (s : Section α) (positional : Bool) (n : Node) : Reading (List α) := do
  (← n.items).mapM (s.ofNode positional)

end Section
end CourtroomGateway.Config
