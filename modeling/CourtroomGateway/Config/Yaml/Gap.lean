import CourtroomGateway.Config.Yaml.Glyph

/-! The blanks and breaks between two words of a scalar, and what they are folded into. Inside a
line they stay; across lines the blanks go, one line feed becomes a space, and of several the
first one goes. Other breaks stay. -/

namespace CourtroomGateway.Config.Yaml

/-- Blanks inside a line, or the first break, when there is one that counts, and later ones; of
blanks and later breaks the last one stands first. -/
inductive Gap
  | within (blanks : List Char)
  | across (first : Option Char) (later : List Char)
deriving Repr, DecidableEq

namespace Gap

def empty : Gap := within []

/-- The gap after one more blank or break. -/
def add (c : Char) : Gap → Gap
  | within blanks => if isBreak c then across (some c) [] else within (c :: blanks)
  | across first later => if isBreak c then across first (c :: later) else across first later

def isAcross : Gap → Bool
  | within _ => false
  | across _ _ => true

def text : Gap → List Char
  | within blanks => blanks.reverse
  | across (some '\n') [] => [' ']
  | across (some '\n') later => later.reverse
  | across first later => first.toList ++ later.reverse

end Gap
end CourtroomGateway.Config.Yaml
