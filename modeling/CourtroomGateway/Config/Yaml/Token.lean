import CourtroomGateway.Config.Node
import CourtroomGateway.Config.Yaml.Glyph

/-! The tokens of a document, and the reading of those that are names of some kind: directives,
anchors, links to them, and tags. -/

namespace CourtroomGateway.Config.Yaml

inductive Token
  | version (major minor : Nat)
  | handle (name lead : List Char)
  | documentStart
  | documentEnd
  | listOpen
  | listClose
  | mapOpen
  | mapClose
  | comma
  | blockList
  | blockMap
  | blockEnd
  | dash
  | key
  | value
  | anchor (name : List Char)
  | link (name : List Char)
  | tag (handle suffix : List Char)
  | scalar (text : List Char) (style : Style)
deriving Repr, DecidableEq

def word (gs : List Glyph) : List Char × List Glyph :=
  let (taken, rest) := gs.span (isWord ·.char)
  (chars taken, rest)

/-- The name of an anchor or of a link to one, and what follows. -/
def anchorName? (gs : List Glyph) : Option (List Char × List Glyph) :=
  let (name, rest) := word gs
  let ends := endsWord rest || nextIs (['?', ':', ',', ']', '}', '%', '@', '\x60'].contains ·) rest
  if !name.isEmpty && ends then some (name, rest) else none

/-- How many octets a character takes whose first octet is this one. -/
def octets (lead : Nat) : Nat :=
  if lead < 0x80 then 1
  else if lead / 0x20 = 0b110 then 2
  else if lead / 0x10 = 0b1110 then 3
  else if lead / 0x08 = 0b11110 then 4
  else 0

/-- The characters of a tag, apart from escapes. Inside angle brackets and in directives it may
also hold commas and square brackets. -/
def isTagChar (wide : Bool) (c : Char) : Bool :=
  isWord c || ";/?:@&=+$.!~*'()".toList.contains c || (wide && [',', '[', ']'].contains c)

/-- Reads the characters of a tag; `further` octets of an escaped character are to come, and some
glyphs were read already. Escaped octets stand for the characters of their codes. -/
def tagFrom (wide : Bool) (further : Nat) : Nat → List Glyph → Option (List Char × List Glyph)
  | skip + 1, _ :: gs => tagFrom wide further skip gs
  | _, [] => if further = 0 then some ([], []) else none
  | 0, g :: gs =>
    if g.char = '%' then do
      guard (2 ≤ gs.length)
      let octet ← Text.digitsIn? 16 0xFF (chars (gs.take 2))
      let further ←
        if further = 0 then if octets octet = 0 then none else some (octets octet - 1)
        else if octet / 0x40 = 0b10 then some (further - 1) else none
      let (text, rest) ← tagFrom wide further 2 gs
      return (Char.ofNat octet :: text, rest)
    else if further ≠ 0 then none
    else if isTagChar wide g.char then do
      let (text, rest) ← tagFrom wide 0 0 gs
      return (g.char :: text, rest)
    else some ([], g :: gs)

/-- The text up to a character with the code zero. -/
def untilZero (text : List Char) : List Char := text.takeWhile (· ≠ '\x00')

/-- Some characters of a tag. -/
def tagText? (wide : Bool) (gs : List Glyph) : Option (List Char × List Glyph) := do
  let (text, rest) ← tagFrom wide 0 0 gs
  if text.isEmpty then none else return (untilZero text, rest)

/-- A handle: an exclamation mark, a word, and an exclamation mark again when there is one. -/
def handle? : List Glyph → Option (List Char × List Glyph)
  | [] => none
  | g :: gs =>
    let (name, rest) := word gs
    match rest with
    | last :: after =>
      if g.char ≠ '!' then none
      else if last.char = '!' then some ('!' :: name ++ ['!'], after)
      else some ('!' :: name, rest)
    | [] => if g.char = '!' then some ('!' :: name, []) else none

/-- A tag in angle brackets, whose exclamation mark and opening bracket have been read. -/
def verbatim? (gs : List Glyph) : Option (Token × List Glyph) := do
  let (suffix, rest) ← tagText? true gs
  if nextIs (· = '>') rest then return (.tag [] suffix, rest.tail) else none

/-- A tag with a handle. An exclamation mark and a word with no other mark after it belong to the
local handle, and the exclamation mark alone is a tag of its own. -/
def shorthand? (gs : List Glyph) : Option (Token × List Glyph) := do
  let (handle, rest) ← handle? gs
  if 2 ≤ handle.length && handle.getLast? = some '!' then
    let (suffix, rest) ← tagText? false rest
    return (.tag handle suffix, rest)
  else
    let (more, rest) ← tagFrom false 0 0 rest
    let suffix := untilZero (handle.tail ++ more)
    return (if suffix.isEmpty then .tag [] ['!'] else .tag ['!'] suffix, rest)

/-- A tag, which stands at the beginning of the glyphs. -/
def tag? (flow : Bool) (gs : List Glyph) : Option (Token × List Glyph) := do
  let (t, rest) ← if nextIs (· = '<') gs.tail then verbatim? (gs.drop 2) else shorthand? gs
  if endsWord rest || (flow && nextIs (· = ',') rest) then return (t, rest) else none

/-- A part of a version: up to nine digits. -/
def versionPart? (gs : List Glyph) : Option (Nat × List Glyph) := do
  let (digits, rest) := gs.span (·.char.isDigit)
  guard (digits.length ≤ 9)
  return (← Text.digitsIn? 10 999999999 (chars digits), rest)

def version? (gs : List Glyph) : Option (Token × List Glyph) := do
  let (major, rest) ← versionPart? gs
  guard (nextIs (· = '.') rest)
  let (minor, rest) ← versionPart? rest.tail
  return (.version major minor, rest)

/-- A handle for tags and what it stands for. -/
def handleRule? (gs : List Glyph) : Option (Token × List Glyph) := do
  let (name, rest) ← handle? gs
  guard (name = ['!'] || (2 ≤ name.length && name.getLast? = some '!'))
  guard (nextIs isSpace rest)
  let (lead, rest) ← tagText? true (dropSpaces rest)
  if endsWord rest then return (.handle name lead, rest) else none

/-- A directive whose percent sign has been read, and the lines after it. -/
def directive? (gs : List Glyph) : Option (Token × List Glyph) := do
  let (name, rest) := word gs
  guard (endsWord rest)
  let (t, rest) ←
    if name = "YAML".toList then version? (dropSpaces rest)
    else if name = "TAG".toList then handleRule? (dropSpaces rest)
    else none
  return (t, ← nextLine? rest)

end CourtroomGateway.Config.Yaml
