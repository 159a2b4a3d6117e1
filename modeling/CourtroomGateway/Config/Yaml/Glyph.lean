/-! The text of a document as glyphs: characters with the places where they stand. A carriage
return, a line feed, both together and a next-line character are one break, the line feed; line
and paragraph separators are breaks that stay what they are. -/

namespace CourtroomGateway.Config.Yaml

/-- A character and its place: characters before it in the text, lines before its line, and
characters before it in its line. -/
structure Glyph where
  char : Char
  index : Nat
  line : Nat
  column : Nat
deriving Repr, DecidableEq

def isSpace (c : Char) : Bool := c = ' ' || c = '\t'

def isBreak (c : Char) : Bool := c = '\n' || c = '\u2028' || c = '\u2029'

def isBlank (c : Char) : Bool := isSpace c || isBreak c

/-- The characters of names: of anchors, tag handles and directives. -/
def isWord (c : Char) : Bool := c.isAlphanum || c = '_' || c = '-'

/-- The characters that a document may hold. -/
def isAllowed (c : Char) : Bool :=
  let n := c.toNat
  n = 0x09 || n = 0x0A || n = 0x0D || (0x20 ≤ n && n ≤ 0x7E) || n = 0x85
    || (0xA0 ≤ n && n ≤ 0xD7FF) || (0xE000 ≤ n && n ≤ 0xFFFD) || 0x10000 ≤ n

def glyphsFrom (index line column : Nat) : List Char → List Glyph
  | [] => []
  | '\r' :: '\n' :: cs => ⟨'\n', index, line, column⟩ :: glyphsFrom (index + 2) (line + 1) 0 cs
  | c :: cs =>
    let char := if c = '\r' || c = '\u0085' then '\n' else c
    ⟨char, index, line, column⟩ ::
      if isBreak char then glyphsFrom (index + 1) (line + 1) 0 cs
      else glyphsFrom (index + 1) line (column + 1) cs

/-- The glyphs of a text, unless it holds a character that no document may hold. -/
def glyphs? (text : String) : Option (List Glyph) :=
  if text.toList.all isAllowed then some (glyphsFrom 0 0 0 text.toList) else none

/-- Whether a test holds of the next character; there is one. -/
def nextIs (test : Char → Bool) : List Glyph → Bool
  | [] => false
  | g :: _ => test g.char

/-- Whether a word ends here: a blank or a break follows, or nothing. -/
def endsWord : List Glyph → Bool
  | [] => true
  | g :: _ => isBlank g.char

/-- Whether a line begins here with a mark of its own that is the character three times. -/
def isRuler (c : Char) : List Glyph → Bool
  | x :: y :: z :: gs =>
    x.column = 0 && x.char = c && y.char = c && z.char = c && endsWord gs
  | _ => false

/-- Whether a line begins here that starts or ends a document. -/
def isMarker (gs : List Glyph) : Bool := isRuler '-' gs || isRuler '.' gs

def chars (gs : List Glyph) : List Char := gs.map (·.char)

def dropSpaces (gs : List Glyph) : List Glyph := gs.dropWhile (isSpace ·.char)

/-- The lines that follow, when only blanks and a comment are left of this one. -/
def nextLine? (gs : List Glyph) : Option (List Glyph) :=
  let rest := dropSpaces gs
  let rest := if nextIs (· = '#') rest then rest.dropWhile (!isBreak ·.char) else rest
  match rest with
  | [] => some []
  | g :: gs => if isBreak g.char then some gs else none

end CourtroomGateway.Config.Yaml
