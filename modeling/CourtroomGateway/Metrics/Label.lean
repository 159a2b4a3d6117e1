/-! Labels of a metric series. A series is told by its labels without their order, so the key of
a series is the sorted list. -/

namespace CourtroomGateway.Metrics

structure Label where
  name : String
  value : String
deriving Repr, DecidableEq

namespace Label

/-- By name, and by value under one name. -/
def order : Label → Label → Ordering := compareLex (compareOn Label.name) (compareOn Label.value)

instance : Ord Label := ⟨order⟩

instance : Std.TransOrd Label :=
  inferInstanceAs (Std.TransCmp (compareLex (compareOn Label.name) (compareOn Label.value)))

instance : Std.LawfulEqOrd Label where
  compare_self {a} := by
    have name : compare a.name a.name = .eq := Std.ReflCmp.compare_self
    have value : compare a.value a.value = .eq := Std.ReflCmp.compare_self
    exact Ordering.then_eq_eq.2 ⟨name, value⟩
  eq_of_compare {a b} h := by
    have both : compare a.name b.name = .eq ∧ compare a.value b.value = .eq := by
      simpa [compare, order, compareLex, compareOn, Ordering.then_eq_eq] using h
    obtain ⟨name, value⟩ := both
    cases a
    cases b
    simp_all

/-- A backslash, a quote or a line break in a value has a backslash before it. -/
def escapeChar : Char → List Char
  | '\\' => ['\\', '\\']
  | '"' => ['\\', '"']
  | '\n' => ['\\', 'n']
  | c => [c]

def text (l : Label) : String :=
  l.name ++ "=\"" ++ String.ofList (l.value.toList.flatMap escapeChar) ++ "\""

end Label

abbrev LabelSet := List Label

namespace LabelSet

def place (l : Label) : LabelSet → LabelSet
  | [] => [l]
  | d :: ds => if compare l d = .gt then d :: place l ds else l :: d :: ds

/-- The sorted list of the given labels. -/
def of : List Label → LabelSet
  | [] => []
  | l :: ls => place l (of ls)

/-- The labels with commas between them. -/
def text (s : LabelSet) : String := String.intercalate "," (s.map Label.text)

/-- The series of this name, with its labels in braces when there are any. -/
def series (name : String) (s : LabelSet) : String :=
  if s.isEmpty then name else name ++ "\x7b" ++ text s ++ "\x7d"

end LabelSet
end CourtroomGateway.Metrics
