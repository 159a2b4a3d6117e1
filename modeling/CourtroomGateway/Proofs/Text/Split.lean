import CourtroomGateway.Text.Blank
import Mathlib.Data.List.Basic
import Mathlib.Data.List.DropRight

/-! Pieces of a text that is split at a character: the first one ends where the character first
stands, none of them has the character, they have no character that the text has not, and pieces
put together with the character between them are found again. Trimming adds no character either,
and trimming what was trimmed takes nothing away. -/

namespace CourtroomGateway.Text

section Pieces
variable {α : Type} [DecidableEq α]

theorem splitOn_eq_takeWhile_cons (sep : α) (cs : List α) :
    ∃ later, cs.splitOn sep = cs.takeWhile (· ≠ sep) :: later := by
  induction cs with
  | nil => exact ⟨[], by simp⟩
  | cons c cs ih =>
    obtain ⟨later, cuts⟩ := ih
    rw [List.splitOn_cons_eq_if_modifyHead, cuts]
    by_cases h : c = sep
    · exact ⟨cs.takeWhile (· ≠ sep) :: later, by simp [h]⟩
    · exact ⟨later, by simp [h]⟩

theorem mem_splitOn_cons {sep c : α} {cs piece : List α}
    (h : piece ∈ (c :: cs).splitOn sep) :
    piece = [] ∨ piece ∈ cs.splitOn sep ∨
      c ≠ sep ∧ ∃ first ∈ cs.splitOn sep, piece = c :: first := by
  rw [List.splitOn_cons_eq_if_modifyHead] at h
  obtain ⟨later, cuts⟩ := splitOn_eq_takeWhile_cons sep cs
  split at h
  next =>
    rcases List.mem_cons.1 h with rfl | h
    · exact .inl rfl
    · exact .inr (.inl h)
  next other =>
    rw [cuts, List.modifyHead_cons, List.mem_cons] at h
    rw [cuts]
    rcases h with rfl | h
    · exact .inr (.inr ⟨by simpa using other, _, List.mem_cons_self, rfl⟩)
    · exact .inr (.inl (List.mem_cons_of_mem _ h))

theorem not_mem_of_mem_splitOn {sep : α} {cs piece : List α}
    (h : piece ∈ cs.splitOn sep) : sep ∉ piece := by
  induction cs generalizing piece with
  | nil => simp_all
  | cons c cs ih =>
    rcases mem_splitOn_cons h with rfl | h | ⟨other, first, inner, rfl⟩
    · exact List.not_mem_nil
    · exact ih h
    · simpa [Ne.symm other] using ih inner

theorem mem_of_mem_splitOn {sep c : α} {cs piece : List α}
    (h : piece ∈ cs.splitOn sep) (hc : c ∈ piece) : c ∈ cs := by
  induction cs generalizing piece with
  | nil => simp_all
  | cons d cs ih =>
    rcases mem_splitOn_cons h with rfl | h | ⟨-, first, inner, rfl⟩
    · exact absurd hc List.not_mem_nil
    · exact List.mem_cons_of_mem d (ih h hc)
    · rcases List.mem_cons.1 hc with rfl | hc
      · exact List.mem_cons_self
      · exact List.mem_cons_of_mem d (ih inner hc)

end Pieces

theorem intercalate_cons {α : Type} (separator first : List α) (later : List (List α)) :
    separator.intercalate (first :: later) = first ++ later.flatMap (separator ++ ·) := by
  induction later generalizing first with
  | nil => simp
  | cons next later ih =>
    rw [List.intercalate_cons_cons, ih, List.flatMap_cons, List.append_assoc, List.append_assoc]

/-- A piece after the first one has a separator before it. -/
theorem infix_of_mem_tail_splitOn {sep : Char} {cs piece : List Char}
    (mem : piece ∈ (cs.splitOn sep).tail) : sep :: piece <:+: cs := by
  obtain ⟨later, cuts⟩ := splitOn_eq_takeWhile_cons sep cs
  have joined : [sep].intercalate (cs.splitOn sep) = cs := List.intercalate_splitOn sep
  rw [cuts, intercalate_cons] at joined
  rw [cuts, List.tail_cons] at mem
  have inside : sep :: piece <:+: later.flatMap ([sep] ++ ·) :=
    List.infix_of_mem_flatten (List.mem_map_of_mem (f := ([sep] ++ ·)) mem)
  rw [← joined]
  exact inside.trans (List.suffix_append _ _).isInfix

/-- Pieces without the separator are found again between separators. -/
theorem splitOn_separated {sep : Char} {first : List Char} (plain : sep ∉ first)
    {pieces : List (List Char)} (others : ∀ piece ∈ pieces, sep ∉ piece) :
    (first ++ pieces.flatMap (sep :: ·)).splitOn sep = first :: pieces := by
  induction pieces generalizing first with
  | nil => rw [List.flatMap_nil, List.append_nil, List.splitOn_eq_singleton plain]
  | cons piece pieces ih =>
    obtain ⟨next, later⟩ := List.forall_mem_cons.1 others
    rw [List.flatMap_cons, List.cons_append, List.splitOn_append_cons_self_of_not_mem plain,
      ih next later]

theorem append_cons_inj {sep : Char} {first first' later later' : List Char} (plain : sep ∉ first)
    (plain' : sep ∉ first') (same : first ++ sep :: later = first' ++ sep :: later') :
    first = first' ∧ later = later' := by
  have cuts := congrArg (List.splitOn sep) same
  rw [List.splitOn_append_cons_self_of_not_mem plain,
    List.splitOn_append_cons_self_of_not_mem plain'] at cuts
  obtain ⟨rfl, -⟩ := List.cons.inj cuts
  exact ⟨rfl, (List.cons.inj (List.append_cancel_left same)).2⟩

theorem append_cons_inj_of_last {sep : Char} {first first' later later' : List Char}
    (plain : sep ∉ later) (plain' : sep ∉ later')
    (same : first ++ sep :: later = first' ++ sep :: later') : first = first' ∧ later = later' := by
  have backwards := congrArg List.reverse same
  simp only [List.reverse_append, List.reverse_cons, List.append_assoc,
    List.singleton_append] at backwards
  obtain ⟨last, start⟩ := append_cons_inj (mt List.mem_reverse.1 plain)
    (mt List.mem_reverse.1 plain') backwards
  exact ⟨List.reverse_inj.1 start, List.reverse_inj.1 last⟩

/-- Closed pieces are split each for itself. -/
theorem splitOn_closed (sep : Char) (pieces : List (List Char)) :
    (pieces.flatMap (· ++ [sep])).splitOn sep = pieces.flatMap (·.splitOn sep) ++ [[]] := by
  induction pieces with
  | nil => exact List.splitOn_eq_singleton List.not_mem_nil
  | cons piece pieces ih =>
    rw [List.flatMap_cons, List.append_assoc, List.singleton_append,
      List.splitOn_append_cons_self, ih, List.flatMap_cons, List.append_assoc]

theorem flatMap_splitOn_of_plain {sep : Char} {pieces : List (List Char)}
    (plain : ∀ piece ∈ pieces, sep ∉ piece) : pieces.flatMap (·.splitOn sep) = pieces := by
  have whole : pieces.flatMap (·.splitOn sep) = pieces.flatMap fun piece => [piece] :=
    List.flatMap_congr fun piece mem => List.splitOn_eq_singleton (plain piece mem)
  rw [whole, List.flatMap_singleton']

theorem mem_of_mem_trimChars {c : Char} {cs : List Char} (h : c ∈ trimChars cs) : c ∈ cs := by
  rw [trimChars, List.mem_reverse] at h
  have front := (List.dropWhile_sublist isBlank).subset h
  exact (List.dropWhile_sublist isBlank).subset (List.mem_reverse.1 front)

theorem trimChars_trimChars (cs : List Char) : trimChars (trimChars cs) = trimChars cs := by
  let started := cs.dropWhile isBlank
  have before : trimChars cs <+: started := by
    rw [← List.reverse_suffix, trimChars, List.reverse_reverse]
    exact List.dropWhile_suffix isBlank
  have front : (trimChars cs).dropWhile isBlank = trimChars cs := by
    refine List.dropWhile_eq_self_iff.2 fun filled => ?_
    have there : 0 < started.length := Nat.lt_of_lt_of_le filled before.length_le
    rw [before.getElem filled]
    exact List.dropWhile_get_zero_not isBlank cs there
  have back : (trimChars cs).reverse.dropWhile isBlank = (trimChars cs).reverse := by
    rw [trimChars, List.reverse_reverse, List.dropWhile_idempotent]
  rw [trimChars, front, back, List.reverse_reverse]

end CourtroomGateway.Text
