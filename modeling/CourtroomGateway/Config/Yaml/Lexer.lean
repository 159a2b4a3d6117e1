import CourtroomGateway.Config.Yaml.Block
import CourtroomGateway.Config.Yaml.Plain
import CourtroomGateway.Config.Yaml.Quoted
import CourtroomGateway.Config.Yaml.Token

/-! From glyphs to tokens. In block context indentation opens and closes lists and maps. A key need
not be announced: where one may have begun is remembered, and its tokens are put in when a colon
turns up. Such a key ends on the line it began on, within 1024 characters. -/

namespace CourtroomGateway.Config.Yaml

/-- A place where a key may have begun: the tokens before it and where it stands. It is required
if its indentation allows nothing but a key there. -/
structure KeyStart where
  before : Nat
  index : Nat
  line : Nat
  column : Nat
  required : Bool
deriving Repr, DecidableEq

/-- The glyphs that are left, the columns of the open blocks from the innermost on, where a key
may have begun here and in the collections around, whether one may begin now, and the tokens so
far, the last one first, and how many they are. -/
structure Lexer where
  rest : List Glyph
  indents : List Nat := []
  key : Option KeyStart := none
  outer : List (Option KeyStart) := []
  keyAllowed : Bool := true
  tokens : List Token := []
  count : Nat := 0

namespace Lexer

/-- Whether brackets or braces are open. -/
def inFlow (l : Lexer) : Bool := !l.outer.isEmpty

/-- The leftmost column of what lies inside the innermost block. -/
def least (l : Lexer) : Nat :=
  match l.indents with
  | [] => 0
  | column :: _ => column + 1

def emit (t : Token) (l : Lexer) : Lexer :=
  { l with tokens := t :: l.tokens, count := l.count + 1 }

/-- Puts a token in after the first `before` ones. -/
def emitAt (before : Nat) (t : Token) (l : Lexer) : Lexer :=
  let later := l.count - before
  { l with tokens := l.tokens.take later ++ t :: l.tokens.drop later, count := l.count + 1 }

/-- Forgets a key that may have begun. -/
def dropKey (l : Lexer) : Option Lexer :=
  if l.key.any (·.required) then none else some { l with key := none }

/-- Remembers that a key may begin at a glyph. -/
def saveKey (g : Glyph) (l : Lexer) : Option Lexer :=
  if l.keyAllowed then
    let required := !l.inFlow && l.least = g.column + 1
    l.dropKey.map fun l =>
      { l with key := some ⟨l.count, g.index, g.line, g.column, required⟩ }
  else some l

/-- Opens a block at a column, unless the innermost one stands there already. -/
def openBlock (column before : Nat) (t : Token) (l : Lexer) : Lexer :=
  if l.inFlow || column < l.least then l
  else { l.emitAt before t with indents := column :: l.indents }

/-- Closes the blocks that stand at a column or right of it. -/
def closeBlocks (column : Nat) (l : Lexer) : Lexer :=
  if l.inFlow then l
  else
    let (closed, indents) := l.indents.span (column ≤ ·)
    let tokens := closed.map (fun _ => Token.blockEnd) ++ l.tokens
    { l with indents, tokens, count := l.count + closed.length }

/-- What is left of a place for a key at a later glyph. -/
def fresh? (g : Glyph) : Option KeyStart → Option (Option KeyStart)
  | none => some none
  | some k =>
    if k.line < g.line || k.index + 1024 < g.index then if k.required then none else some none
    else some (some k)

/-- Forgets the places for keys that lie too far back. -/
def expire (g : Glyph) (l : Lexer) : Option Lexer := do
  let key ← fresh? g l.key
  let outer ← l.outer.mapM (fresh? g)
  return { l with key, outer }

/-- Passes over blanks, comments and breaks, and tells whether a key may begin after them. A byte
order mark may begin a line. Tabs may stand where no key may begin, and in flow context. -/
def skipFrom (flow comment keyAllowed : Bool) : List Glyph → Bool × List Glyph
  | [] => (keyAllowed, [])
  | g :: gs =>
    if isBreak g.char then skipFrom flow false (keyAllowed || !flow) gs
    else if comment || g.char = '#' then skipFrom flow true keyAllowed gs
    else if g.char = ' ' || (g.char = '\t' && (flow || !keyAllowed))
        || (g.char = '\ufeff' && g.column = 0) then
      skipFrom flow false keyAllowed gs
    else (keyAllowed, g :: gs)

def skip (l : Lexer) : Lexer :=
  let (keyAllowed, rest) := skipFrom l.inFlow false l.keyAllowed l.rest
  { l with keyAllowed, rest }

/-- Ends all blocks before a directive or a marker. -/
def endBlocks (l : Lexer) : Option Lexer :=
  (l.closeBlocks 0).dropKey.map fun l => { l with keyAllowed := false }

/-- A bracket or brace that opens a collection, which may be a key. -/
def openFlow (t : Token) (g : Glyph) (l : Lexer) : Option Lexer :=
  (l.saveKey g).map fun l =>
    { l.emit t with outer := l.key :: l.outer, key := none, keyAllowed := true }

/-- A bracket or brace that closes a collection. -/
def closeFlow (t : Token) (l : Lexer) : Option Lexer :=
  l.dropKey.map fun l =>
    match l.outer with
    | [] => { l.emit t with keyAllowed := false }
    | key :: outer => { l.emit t with key, outer, keyAllowed := false }

/-- A mark that begins an entry of a block, and the block with it if need be. -/
def blockMark (t mark : Token) (g : Glyph) (l : Lexer) : Option Lexer :=
  if !l.inFlow && !l.keyAllowed then none
  else (l.openBlock g.column l.count t).dropKey.map (·.emit mark)

/-- A colon: it ends the key that may have begun, or else belongs to an empty or announced one. -/
def valueMark (g : Glyph) (l : Lexer) : Option Lexer :=
  match l.key with
  | some k =>
    let l := (l.emitAt k.before .key).openBlock k.column k.before .blockMap
    some { l.emit .value with key := none, keyAllowed := false }
  | none =>
    if !l.inFlow && !l.keyAllowed then none
    else
      let l := l.openBlock g.column l.count .blockMap
      some { l.emit .value with keyAllowed := !l.inFlow }

/-- A token of several glyphs that may be a key: it is read, and no key may begin after it. -/
def leaf (g : Glyph) (read : Option (Token × List Glyph)) (l : Lexer) : Option Lexer := do
  let l ← l.saveKey g
  let (t, rest) ← read
  return { l.emit t with rest, keyAllowed := false }

def plainLeaf (g : Glyph) (gs : List Glyph) (l : Lexer) : Option Lexer := do
  let l ← l.saveKey g
  let (text, across, rest) ← plain l.inFlow l.least (g :: gs)
  return { l.emit (.scalar text .plain) with rest, keyAllowed := across }

def quotedLeaf (q : Quote) (g : Glyph) (gs : List Glyph) : Lexer → Option Lexer :=
  leaf g ((quoted q gs).map fun (text, rest) => (.scalar text .quoted, rest))

def blockLeaf (style : Style) (gs : List Glyph) (l : Lexer) : Option Lexer := do
  let l ← l.dropKey
  let (text, rest) ← block (style = .folded) l.least gs
  return { l.emit (.scalar text style) with rest, keyAllowed := true }

/-- The marks that no plain scalar begins with. -/
def isIndicator (c : Char) : Bool :=
  ",[]#&*!|>'\"%@".toList.contains c || c = '\x60' || c = '\x7b' || c = '\x7d'

/-- Whether a plain scalar may begin here. Three of the marks may begin one when a character
follows them, two of those in block context only. -/
def startsPlain (flow : Bool) (g : Glyph) (gs : List Glyph) : Bool :=
  if g.char = '-' then !nextIs isSpace gs
  else if g.char = '?' || g.char = ':' then !flow && !endsWord gs
  else !isBlank g.char && !isIndicator g.char

/-- Reads the token that begins with a glyph. -/
def next (g : Glyph) (gs : List Glyph) (l : Lexer) : Option Lexer :=
  let after := { l with rest := gs }
  let ruler := { l with rest := gs.drop 2 }
  if g.column = 0 && g.char = '%' then do
    let l ← l.endBlocks
    let (t, rest) ← directive? gs
    return { l.emit t with rest }
  else if isRuler '-' (g :: gs) then ruler.endBlocks.map (·.emit .documentStart)
  else if isRuler '.' (g :: gs) then ruler.endBlocks.map (·.emit .documentEnd)
  else if g.char = '[' then after.openFlow .listOpen g
  else if g.char = '{' then after.openFlow .mapOpen g
  else if g.char = ']' then after.closeFlow .listClose
  else if g.char = '}' then after.closeFlow .mapClose
  else if g.char = ',' then after.dropKey.map fun l => { l.emit .comma with keyAllowed := true }
  else if g.char = '-' && endsWord gs then
    (after.blockMark .blockList .dash g).map ({ · with keyAllowed := true })
  else if g.char = '?' && (l.inFlow || endsWord gs) then
    (after.blockMark .blockMap .key g).map ({ · with keyAllowed := !l.inFlow })
  else if g.char = ':' && (l.inFlow || endsWord gs) then after.valueMark g
  else if g.char = '*' then
    l.leaf g ((anchorName? gs).map fun (name, rest) => (.link name, rest))
  else if g.char = '&' then
    l.leaf g ((anchorName? gs).map fun (name, rest) => (.anchor name, rest))
  else if g.char = '!' then l.leaf g (tag? l.inFlow (g :: gs))
  else if g.char = '|' && !l.inFlow then l.blockLeaf .literal gs
  else if g.char = '>' && !l.inFlow then l.blockLeaf .folded gs
  else
    match Quote.ofChar? g.char with
    | some q => l.quotedLeaf q g gs
    | none => if startsPlain l.inFlow g gs then l.plainLeaf g gs else none

/-- Reads tokens to the end of the text. Each takes a glyph at least, so that as many rounds as
there are glyphs, and one more, are enough. -/
def run : Nat → Lexer → Option (List Token)
  | 0, _ => none
  | rounds + 1, l =>
    let l := l.skip
    match l.rest with
    | [] => (l.closeBlocks 0).dropKey.map (·.tokens.reverse)
    | g :: gs => do run rounds (← ((← l.expire g).closeBlocks (g.column + 1)).next g gs)

end Lexer

def tokens? (gs : List Glyph) : Option (List Token) :=
  Lexer.run (gs.length + 1) { rest := gs }

end CourtroomGateway.Config.Yaml
