import CourtroomGateway.Config.Yaml.Gap

/-! Scalars without quotes. A colon at the end of a word ends them, and so does a comment, a
marker of a document, a line that stands too far left, and in flow context any of its marks. -/

namespace CourtroomGateway.Config.Yaml

/-- The marks of flow context that end a plain scalar there. -/
def isFlowMark (c : Char) : Bool := [',', '[', ']', '{', '}'].contains c

/-- Whether a plain scalar ends before this glyph, which is no blank. -/
def endsPlain (flow : Bool) (least : Nat) (gap : Gap) (g : Glyph) (gs : List Glyph) : Bool :=
  isMarker (g :: gs) || (g.char = '#' && gap ≠ .empty)
    || (!flow && gap.isAcross && g.column < least)
    || (g.char = ':' && endsWord gs) || (flow && isFlowMark g.char)

/-- Reads on after a gap. Gives the text, whether the scalar ended beyond a break, and what is
left. Lines may not begin left of the column `least`, nor have a tab there. -/
def plainFrom (flow : Bool) (least : Nat) (gap : Gap) :
    List Glyph → Option (List Char × Bool × List Glyph)
  | [] => some ([], gap.isAcross, [])
  | g :: gs =>
    if isBlank g.char then
      if gap.isAcross && g.char = '\t' && g.column < least then none
      else plainFrom flow least (gap.add g.char) gs
    else if endsPlain flow least gap g gs then some ([], gap.isAcross, g :: gs)
    else if flow && g.char = ':' && nextIs (fun c => c = '?' || isFlowMark c) gs then none
    else do
      let (text, across, rest) ← plainFrom flow least .empty gs
      return (gap.text ++ g.char :: text, across, rest)

def plain (flow : Bool) (least : Nat) (gs : List Glyph) :
    Option (List Char × Bool × List Glyph) :=
  plainFrom flow least .empty gs

end CourtroomGateway.Config.Yaml
