import CourtroomGateway.Config.Yaml.Gap
import CourtroomGateway.Text.Integer

/-! Scalars in quotes. A single quote inside single quotes is written twice; inside double quotes a
backslash escapes a character, or a break so that the lines are joined. -/

namespace CourtroomGateway.Config.Yaml

inductive Quote
  | single | double
deriving Repr, DecidableEq

namespace Quote

def char : Quote → Char
  | single => '\''
  | double => '"'

/-- The quote that a character is. -/
def ofChar? (c : Char) : Option Quote :=
  if c = '\'' then some single else if c = '"' then some double else none

end Quote

/-- The escapes of one character. -/
def escapes : List (Char × Char) :=
  [('0', '\x00'), ('a', '\x07'), ('b', '\x08'), ('t', '\t'), ('\t', '\t'), ('n', '\n'),
    ('v', '\x0b'), ('f', '\x0c'), ('r', '\r'), ('e', '\x1b'), (' ', ' '), ('"', '"'), ('/', '/'),
    ('\\', '\\'), ('N', '\u0085'), ('_', '\u00a0'), ('L', '\u2028'), ('P', '\u2029')]

/-- The escapes that take a code in hexadecimal digits, and how many of them. -/
def codeEscapes : List (Char × Nat) := [('x', 2), ('u', 4), ('U', 8)]

/-- What the glyphs after a backslash stand for, and how many of them that takes. -/
def escape? : List Glyph → Option (Char × Nat)
  | [] => none
  | g :: gs =>
    match escapes.lookup g.char with
    | some c => some (c, 1)
    | none => do
      let width ← codeEscapes.lookup g.char
      guard (width ≤ gs.length)
      let code ← Text.digitsIn? 16 0x10FFFF (chars (gs.take width))
      guard code.isValidChar
      return (Char.ofNat code, width + 1)

/-- Reads up to the closing quote, after a gap and with some glyphs to pass over that were read
already. -/
def quotedFrom (q : Quote) (gap : Gap) : Nat → List Glyph → Option (List Char × List Glyph)
  | _, [] => none
  | skip + 1, _ :: gs => quotedFrom q gap skip gs
  | 0, g :: gs =>
    if isMarker (g :: gs) then none
    else if isBlank g.char then quotedFrom q (gap.add g.char) 0 gs
    else if g.char = q.char && !(q = .single && nextIs (· = q.char) gs) then some (gap.text, gs)
    else do
      let (piece, gap, skip) ←
        if g.char = q.char then some (gap.text ++ [g.char], Gap.empty, 1)
        else if q = .double && g.char = '\\' then
          if nextIs isBreak gs then some (gap.text, Gap.across none [], 1)
          else (escape? gs).map fun (c, length) => (gap.text ++ [c], Gap.empty, length)
        else some (gap.text ++ [g.char], Gap.empty, 0)
      let (text, rest) ← quotedFrom q gap skip gs
      return (piece ++ text, rest)

/-- The text of a scalar whose opening quote has been read, and what follows the closing one. -/
def quoted (q : Quote) (gs : List Glyph) : Option (List Char × List Glyph) :=
  quotedFrom q .empty 0 gs

end CourtroomGateway.Config.Yaml
