import CourtroomGateway.Proofs.Metrics.Series
import CourtroomGateway.Table.Lemmas
import Mathlib.Algebra.Ring.Nat

/-! Sums over the series of a family. The words of the series wrap one by one, so their sum shows
how often anything was counted up to whole rounds of a word, and exactly as long as the number fits
into one. -/

namespace CourtroomGateway.Metrics

/-- The first number, read off words, is the second one but for whole rounds of a word. -/
def Shows (shown exact : Nat) : Prop := ∃ rounds, exact = shown + rounds * 2 ^ 64

namespace Shows

theorem refl (n : Nat) : Shows n n := ⟨0, by omega⟩

variable {a b c m n : Nat}

theorem trans (h : Shows a b) (h' : Shows b c) : Shows a c := by
  obtain ⟨r, rfl⟩ := h
  obtain ⟨s, rfl⟩ := h'
  exact ⟨r + s, by omega⟩

theorem add (h : Shows a m) (h' : Shows b n) : Shows (a + b) (m + n) := by
  obtain ⟨r, rfl⟩ := h
  obtain ⟨s, rfl⟩ := h'
  exact ⟨r + s, by omega⟩

/-- A number that fits into a word is shown as it is. -/
theorem eq_of_lt (h : Shows a n) (fits : n < 2 ^ 64) : a = n := by
  obtain ⟨rounds, rfl⟩ := h
  omega

theorem toNat_add_one (word : UInt64) : Shows (word + 1).toNat (word.toNat + 1) := by
  have added : (word + 1).toNat = (word.toNat + 1) % 2 ^ 64 := UInt64.toNat_add word 1
  exact ⟨(word.toNat + 1) / 2 ^ 64, by omega⟩

theorem succ {word : UInt64} (h : Shows word.toNat n) : Shows (word + 1).toNat (n + 1) :=
  (toNat_add_one word).trans (h.add (refl 1))

end Shows

theorem LabelSet.mem_of {l : Label} {ls : List Label} : l ∈ of ls ↔ l ∈ ls := by
  rw [of_eq_insertionSort, (List.perm_insertionSort Le ls).mem_iff]

section Sums
variable {α : Type} (word : α → UInt64) (shared : List Label)

/-- What the series that have all the shared labels show together. -/
def sumOver (series : Table LabelSet α) : Nat :=
  (series.entries.map fun e => if shared ⊆ e.1 then (word e.2).toNat else 0).sum

theorem sumOver_insert (series : Table LabelSet α) (key : LabelSet) (a : α) :
    sumOver word shared (series.insert key a) =
      (if shared ⊆ key then (word a).toNat else 0) + sumOver word shared (series.erase key) :=
  ((series.perm_entries_insert key a).map _).sum_nat

theorem sumOver_erase (series : Table LabelSet α) (key : LabelSet) {initial : α}
    (zero : word initial = 0) :
    sumOver word shared series =
      (if shared ⊆ key then (word ((series.find? key).getD initial)).toNat else 0) +
        sumOver word shared (series.erase key) := by
  cases found : series.find? key with
  | none => simp [Table.erase_of_missing found, zero]
  | some a => exact ((Table.perm_entries found).map _).sum_nat

/-- One more in one series is one more in the sum if the series belongs to it. -/
theorem shows_sumOver_insert {series : Table LabelSet α} {n : Nat}
    (before : Shows (sumOver word shared series) n) (labels : List Label) (initial next : α)
    (zero : word initial = 0)
    (counted : word next = word ((series.find? (LabelSet.of labels)).getD initial) + 1) :
    Shows (sumOver word shared (series.insert (LabelSet.of labels) next))
      (n + if shared ⊆ labels then 1 else 0) := by
  have covers : shared ⊆ LabelSet.of labels ↔ shared ⊆ labels :=
    forall₂_congr fun _ _ => LabelSet.mem_of
  rw [sumOver_erase word shared series (LabelSet.of labels) zero] at before
  rw [sumOver_insert, counted]
  simp only [covers] at before ⊢
  split at before
  next own =>
    simp only [own, if_true]
    have next := (Shows.toNat_add_one (word ((series.find? (LabelSet.of labels)).getD initial))).add
      (.refl (sumOver word shared (series.erase (LabelSet.of labels))))
    rw [Nat.add_right_comm] at next
    exact next.trans (before.add (.refl 1))
  next other => simpa [other] using before

end Sums

/-- What the series that have all the shared labels count together. -/
def Counter.total (c : Counter) (shared : List Label) : Nat := sumOver id shared c.series

/-- The number of observations in all series. -/
def Histogram.total (h : Histogram) : Nat := sumOver Distribution.count [] h.series

theorem Counter.shows_total_inc {c : Counter} {shared : List Label} {n : Nat}
    (before : Shows (c.total shared) n) (labels : List Label) :
    Shows ((c.inc labels).total shared) (n + if shared ⊆ labels then 1 else 0) :=
  shows_sumOver_insert id shared before labels 0 _ rfl rfl

theorem Histogram.shows_total_observe {h : Histogram} {n : Nat} (before : Shows h.total n)
    (labels : List Label) (nanoseconds : Nat) :
    Shows (h.observe labels nanoseconds).total (n + 1) := by
  have next := shows_sumOver_insert Distribution.count [] before labels {}
    ((h.get labels).observe (microseconds nanoseconds)) rfl rfl
  rw [if_pos (List.nil_subset _)] at next
  exact next

end CourtroomGateway.Metrics
