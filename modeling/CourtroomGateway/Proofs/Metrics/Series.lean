import CourtroomGateway.Metrics.Page
import Mathlib.Data.List.Sort

/-! Which series a list of labels is counted in. The key of a series is the sorted list of its
labels, so two lists belong to one series just when they are permutations of each other, and what
is counted under one list leaves all other series as they were. -/

namespace CourtroomGateway.Metrics

namespace LabelSet

/-- The order of the labels in a key. -/
def Le (a b : Label) : Prop := (compare a b).isLE

instance : DecidableRel Le := fun a b => inferInstanceAs (Decidable ((compare a b).isLE = true))

instance : IsTrans Label Le := ⟨fun _ _ _ => Std.TransCmp.isLE_trans⟩

instance : Std.Total Le where
  total a b := by
    by_cases above : compare a b = .gt
    · exact .inr (by rw [Le, Std.OrientedCmp.lt_of_gt above]; rfl)
    · exact .inl (Ordering.ne_gt_iff_isLE.1 above)

theorem Le.antisymm {a b : Label} (h : Le a b) (h' : Le b a) : a = b :=
  Std.LawfulEqCmp.eq_of_compare (Std.OrientedCmp.isLE_antisymm h h')

theorem place_eq_orderedInsert (l : Label) (s : LabelSet) : place l s = s.orderedInsert Le l := by
  induction s with
  | nil => rfl
  | cons d ds ih =>
    have le_iff : Le l d ↔ ¬ compare l d = .gt := Ordering.ne_gt_iff_isLE.symm
    simp only [place, List.orderedInsert_cons, ih, le_iff, ite_not]

theorem of_eq_insertionSort (ls : List Label) : of ls = ls.insertionSort Le := by
  induction ls with
  | nil => rfl
  | cons l ls ih => rw [of, place_eq_orderedInsert, ih, List.insertionSort_cons]

/-- Labels in any order have the same key. -/
theorem of_eq_of_iff {a b : List Label} : of a = of b ↔ a.Perm b := by
  rw [of_eq_insertionSort, of_eq_insertionSort]
  have sorted := List.perm_insertionSort Le
  constructor
  · intro same
    exact (sorted a).symm.trans (same ▸ sorted b)
  · intro perm
    have both := (sorted a).trans (perm.trans (sorted b).symm)
    exact both.eq_of_pairwise (fun _ _ _ _ => Le.antisymm) (List.pairwise_insertionSort Le a)
      (List.pairwise_insertionSort Le b)

end LabelSet

/-- The series of these labels grew by an amount, and all others are as they were. -/
structure Counter.Gains (c c' : Counter) (labels : List Label) (n : UInt64) : Prop where
  own : c'.get labels = c.get labels + n
  others : ∀ others, ¬ others.Perm labels → c'.get others = c.get others

theorem Counter.gains_add (c : Counter) (labels : List Label) (n : UInt64) :
    c.Gains (c.add labels n) labels n where
  own := by rw [get_add, if_pos rfl]
  others others apart := by rw [get_add, if_neg (mt LabelSet.of_eq_of_iff.1 apart)]

/-- The series of these labels has one observation more, and all others are as they were. -/
structure Histogram.Gains (h h' : Histogram) (labels : List Label) : Prop where
  own : (h'.get labels).count = (h.get labels).count + 1
  others : ∀ others, ¬ others.Perm labels → h'.get others = h.get others

theorem Histogram.gains_observe (h : Histogram) (labels : List Label) (nanoseconds : Nat) :
    h.Gains (h.observe labels nanoseconds) labels where
  own := by
    rw [get_observe, if_pos rfl]
    rfl
  others others apart := by rw [get_observe, if_neg (mt LabelSet.of_eq_of_iff.1 apart)]

end CourtroomGateway.Metrics
