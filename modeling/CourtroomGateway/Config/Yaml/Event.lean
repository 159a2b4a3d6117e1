import CourtroomGateway.Config.Yaml.Token

/-! From tokens to events: a document as a walk through its tree, in which every collection has a
start and an end and values that were left out are empty scalars. -/

namespace CourtroomGateway.Config.Yaml

/-- An event; what it says of anchors depends on how they are known. -/
inductive Event (α : Type)
  | scalar (anchor : Option α) (s : Scalar)
  | link (target : α)
  | listStart (anchor : Option α)
  | listEnd
  | mapStart (anchor : Option α)
  | mapEnd
deriving Repr, DecidableEq

abbrev Walk := List (Event (List Char))

/-- Reading along the tokens of a document. -/
abbrev Reader := StateT (List Token) Option

/-- What the tag handles stand for. -/
abbrev Handles := List (List Char × List Char)

def usualHandles : Handles := [(['!'], ['!']), (['!', '!'], "tag:yaml.org,2002:".toList)]

/-- What an anchor and a tag before a value say of it. -/
structure Properties where
  anchor : Option (List Char) := none
  tag : Option Tag := none

def tagOf (name : List Char) : Tag :=
  if name = "tag:yaml.org,2002:null".toList then .null
  else if name = "tag:yaml.org,2002:int".toList then .int
  else .other

/-- What a tag means; its handle must be known. -/
def resolve? (handles : Handles) (handle suffix : List Char) : Option Tag :=
  if handle.isEmpty then some (tagOf suffix)
  else (handles.lookup handle).map fun lead => tagOf (lead ++ suffix)

/-- An anchor and a tag, both, one or none of them, in either order. -/
def properties? (handles : Handles) : List Token → Option (Properties × List Token)
  | .anchor name :: .tag handle suffix :: ts | .tag handle suffix :: .anchor name :: ts =>
    (resolve? handles handle suffix).map fun tag => ({ anchor := name, tag }, ts)
  | .tag handle suffix :: ts => (resolve? handles handle suffix).map fun tag => ({ tag }, ts)
  | .anchor name :: ts => some ({ anchor := name }, ts)
  | ts => some ({}, ts)

def Properties.scalar (p : Properties) (text : List Char) (style : Style) : Walk :=
  [.scalar p.anchor { text := String.ofList text, style, tag := p.tag }]

/-- A value that was left out. -/
def void : Walk := ({} : Properties).scalar [] .plain

namespace Reader

/-- Whether one of some tokens comes next. -/
def nextAmong (stops : List Token) : Reader Bool := do return (← get).head?.any stops.contains

/-- Passes over a token if it comes next, and tells whether it did. -/
def passed (t : Token) : Reader Bool := do
  let ts ← get
  if ts.head? = some t then set ts.tail; return true else return false

/-- A value, or none where one of some tokens comes next. -/
def orVoid (stops : List Token) (value : Reader Walk) : Reader Walk := do
  if ← nextAmong stops then return void else value

/-- The value after a value mark, or none where there is no mark. -/
def marked (stops : List Token) (value : Reader Walk) : Reader Walk := do
  if ← passed .value then orVoid stops value else return void

/-- The comma between two entries. -/
def separator : Reader Unit := do
  unless ← passed .comma do failure

/-- What stands after an anchor or a tag may be left out. -/
def alone (p : Properties) : Reader Walk :=
  if p.anchor.isNone && p.tag.isNone then failure else return p.scalar [] .plain

end Reader

/-- The tokens before which a value may be left out, in block context and in flow collections. -/
def blockStops : List Token := [.key, .value, .blockEnd]
def listStops : List Token := [.comma, .listClose]
def mapStops : List Token := [.comma, .mapClose]

open Reader

mutual

/-- A value. In block context it may be a block, and in a map also a list whose dashes stand at
the column of the keys. -/
def node (handles : Handles) (inBlock inMap : Bool) : Nat → Reader Walk
  | 0 => failure
  | rounds + 1 => do
    match ← get with
    | .link name :: ts => set ts; return [.link name]
    | ts =>
      let (p, ts) ← properties? handles ts
      set ts
      match ts with
      | .scalar text style :: ts => set ts; return p.scalar text style
      | .listOpen :: ts => set ts; return .listStart p.anchor :: (← flowList handles true rounds)
      | .mapOpen :: ts => set ts; return .mapStart p.anchor :: (← flowMap handles true rounds)
      | .dash :: _ =>
        if inMap then return .listStart p.anchor :: (← levelList handles rounds) else alone p
      | .blockList :: ts =>
        if inBlock then set ts; return .listStart p.anchor :: (← blockList handles rounds)
        else alone p
      | .blockMap :: ts =>
        if inBlock then set ts; return .mapStart p.anchor :: (← blockMap handles rounds)
        else alone p
      | _ => alone p

/-- The items of a list in a block of its own. -/
def blockList (handles : Handles) : Nat → Reader Walk
  | 0 => failure
  | rounds + 1 => do
    if ← passed .dash then
      let item ← orVoid [.dash, .blockEnd] (node handles true false rounds)
      return item ++ (← blockList handles rounds)
    else if ← passed .blockEnd then return [.listEnd]
    else failure

/-- The items of a list whose dashes stand at the column of the keys around it. -/
def levelList (handles : Handles) : Nat → Reader Walk
  | 0 => failure
  | rounds + 1 => do
    if ← passed .dash then
      let item ← orVoid (.dash :: blockStops) (node handles true false rounds)
      return item ++ (← levelList handles rounds)
    else return [.listEnd]

/-- The entries of a map in a block. -/
def blockMap (handles : Handles) : Nat → Reader Walk
  | 0 => failure
  | rounds + 1 => do
    if ← passed .key then
      let key ← orVoid blockStops (node handles true true rounds)
      let value ← marked blockStops (node handles true true rounds)
      return key ++ value ++ (← blockMap handles rounds)
    else if ← passed .blockEnd then return [.mapEnd]
    else failure

/-- The items of a list in brackets, with commas between them. A key among them makes a map of one
entry; a mark that stands in place of its text is passed over. -/
def flowList (handles : Handles) (first : Bool) : Nat → Reader Walk
  | 0 => failure
  | rounds + 1 => do
    if ← passed .listClose then return [.listEnd]
    unless first do separator
    if ← passed .key then
      let key ←
        if ← nextAmong (.value :: listStops) then modify List.tail; pure void
        else node handles false false rounds
      let value ← marked listStops (node handles false false rounds)
      return .mapStart none :: key ++ value ++ .mapEnd :: (← flowList handles false rounds)
    if ← passed .listClose then return [.listEnd]
    let item ← node handles false false rounds
    return item ++ (← flowList handles false rounds)

/-- The entries of a map in braces, with commas between them. -/
def flowMap (handles : Handles) (first : Bool) : Nat → Reader Walk
  | 0 => failure
  | rounds + 1 => do
    if ← passed .mapClose then return [.mapEnd]
    unless first do separator
    if ← passed .key then
      let key ← orVoid (.value :: mapStops) (node handles false false rounds)
      let value ← marked mapStops (node handles false false rounds)
      return key ++ value ++ (← flowMap handles false rounds)
    if ← passed .mapClose then return [.mapEnd]
    let key ← node handles false false rounds
    return key ++ void ++ (← flowMap handles false rounds)

end

/-- The tag handles after the directives of a document, which must not contradict one another. -/
def directives (versioned : Bool) (handles : Handles) :
    List Token → Option (Handles × List Token)
  | .version major minor :: ts =>
    if !versioned && major = 1 && (minor = 1 || minor = 2) then directives true handles ts
    else none
  | .handle name lead :: ts =>
    if (handles.lookup name).isSome then none
    else directives versioned (handles ++ [(name, lead)]) ts
  | ts => some (handles ++ usualHandles, ts)

def isDirective : Token → Bool
  | .version _ _ | .handle _ _ => true
  | _ => false

/-- A document with directives or a mark at its start, whose content may be left out, or one that
is nothing but its content. -/
def content (rounds : Nat) : Reader Walk := do
  let ts ← get
  if ts.head?.any fun t => isDirective t || t = .documentStart then
    let (handles, ts) ← directives false [] ts
    set ts
    if !(← passed .documentStart) then failure
    if (← get).head?.all fun t => isDirective t || [.documentStart, .documentEnd].contains t then
      return void
    node handles true false rounds
  else node usualHandles true false rounds

/-- The only document of a text. One round takes a token or opens a collection that begins with
the next one, so that two rounds for each token are enough, and two more. -/
def events? (ts : List Token) : Option Walk := do
  let (es, rest) ← (content (2 * ts.length + 2)).run ts
  if (rest.dropWhile (· = .documentEnd)).isEmpty then return es else none

end CourtroomGateway.Config.Yaml
