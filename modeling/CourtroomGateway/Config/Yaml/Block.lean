import CourtroomGateway.Config.Yaml.Glyph

/-! Block scalars: a header, and then lines that are indented alike. The indentation is taken
off; what is left is the text of a literal scalar, and of a folded one after folding its lines. The
breaks at the end are kept as the header says. -/

namespace CourtroomGateway.Config.Yaml

/-- Which of the breaks at the end are kept: none, the first, or all. -/
inductive Chomp
  | strip | clip | keep
deriving Repr, DecidableEq

def chomp : List Glyph → Chomp × List Glyph
  | g :: gs =>
    if g.char = '-' then (.strip, gs) else if g.char = '+' then (.keep, gs) else (.clip, g :: gs)
  | [] => (.clip, [])

/-- How much deeper than its surroundings the scalar is indented, or zero where that is not
said. -/
def step : List Glyph → Nat × List Glyph
  | g :: gs =>
    if '1' ≤ g.char ∧ g.char ≤ '9' then (g.char.toNat - '0'.toNat, gs) else (0, g :: gs)
  | [] => (0, [])

/-- Both parts of a header, in either order. -/
def header (gs : List Glyph) : Chomp × Nat × List Glyph :=
  let (depth, rest) := step gs
  let (ending, rest) := chomp rest
  if depth = 0 then (ending, step rest) else (ending, depth, rest)

/-- The widest margin of the lines up to the first that is not empty. -/
def margin? (widest : Nat) : List Glyph → Option Nat
  | [] => some widest
  | g :: gs =>
    if g.char = ' ' then margin? (max widest (g.column + 1)) gs
    else if g.char = '\t' then none
    else if isBreak g.char then margin? widest gs
    else some widest

/-- Takes the margin off the lines, up to the first that stands left of it. -/
def outdent (margin : Nat) (inside : Bool) : List Glyph → Option (List Char × List Glyph)
  | [] => some ([], [])
  | g :: gs =>
    if isBreak g.char || inside || g.column = margin then do
      let (text, rest) ← outdent margin (!isBreak g.char) gs
      return (g.char :: text, rest)
    else if g.char = ' ' then outdent margin false gs
    else if g.char = '\t' then none
    else some ([], g :: gs)

/-- What the breaks between two lines become. Beside a line that begins with a blank they stay. -/
def joint (loose : Bool) : List Char → List Char
  | '\n' :: more => if loose then '\n' :: more else if more.isEmpty then [' '] else more
  | breaks => breaks

/-- Folds the lines after a line, which may be loose, and some breaks, the last one first. -/
def foldFrom (loose : Bool) (breaks : List Char) : List Char → List Char
  | [] => breaks.reverse
  | c :: cs =>
    if isBreak c then foldFrom loose (c :: breaks) cs
    else if breaks.isEmpty then c :: foldFrom loose [] cs
    else joint (loose || isSpace c) breaks.reverse ++ c :: foldFrom (isSpace c) [] cs

/-- Folds lines. The breaks before the first of them stay. -/
def fold (text : List Char) : List Char :=
  match text.dropWhile isBreak with
  | [] => text
  | c :: cs => text.takeWhile isBreak ++ c :: foldFrom (isSpace c) [] cs

/-- The text without the breaks at its end. -/
def trimBreaks (text : List Char) : List Char := (text.reverse.dropWhile isBreak).reverse

def Chomp.apply (ending : Chomp) (folded : Bool) (text : List Char) : List Char :=
  let lines := trimBreaks text
  let breaks := text.drop lines.length
  (if folded then fold lines else lines) ++
    match ending with
    | strip => []
    | clip => if lines.isEmpty then [] else breaks.take 1
    | keep => breaks

/-- The text of a scalar from its header on. Lines belong to it from the column `least`, which is
where its surroundings allow them, or more where the header or the lines say so. -/
def block (folded : Bool) (least : Nat) (gs : List Glyph) : Option (List Char × List Glyph) := do
  let (ending, depth, rest) := header gs
  let rest ← nextLine? rest
  let margin ←
    if depth = 0 then (margin? 0 rest).map (max · (max least 1)) else some (least - 1 + depth)
  let (text, rest) ← outdent margin false rest
  return (ending.apply folded text, rest)

end CourtroomGateway.Config.Yaml
