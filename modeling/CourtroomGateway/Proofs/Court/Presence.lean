import CourtroomGateway.Court.Presence
import CourtroomGateway.Table.Lemmas
import Mathlib.Tactic.Tauto

/-! The two sides of presence agree. A client is in the set of an area when it stands there, and
of no other area, and no area keeps an empty set. Joining and leaving keep this. -/

namespace CourtroomGateway

namespace Court.Presence

/-- The set of an area, empty where there is none. -/
def setOf (sets : Table Nat Members) (area : Nat) : Members := (sets.find? area).getD ∅

theorem setOf_insert (sets : Table Nat Members) (area i : Nat) (members : Members) :
    setOf (sets.insert area members) i = if i = area then members else setOf sets i := by
  simp only [setOf, Table.find?_insert]
  split <;> rfl

theorem setOf_erase (sets : Table Nat Members) (area i : Nat) :
    setOf (sets.erase area) i = if i = area then ∅ else setOf sets i := by
  simp only [setOf, Table.find?_erase]
  split <;> rfl

theorem contains_setOf_withdraw (sets : Table Nat Members) (area client i j : Nat) :
    (setOf (withdraw sets area client) i).contains j ↔
      (setOf sets i).contains j ∧ ¬ (i = area ∧ j = client) := by
  unfold withdraw
  cases found : sets.find? area with
  | none =>
    have nobody : i = area → ¬ (setOf sets i).contains j := by
      rintro rfl
      simp [setOf, found, Table.contains]
    tauto
  | some members =>
    have these : setOf sets area = members := by rw [setOf, found, Option.getD_some]
    have left := members.contains_erase client j
    dsimp only
    split
    next empty =>
      rw [setOf_erase]
      have gone := (Table.isEmpty_iff _).1 empty j
      by_cases here : i = area
      · subst here
        rw [if_pos rfl, these]
        simp only [Table.contains, Table.find?_empty, true_and] at *
        tauto
      · rw [if_neg here]
        tauto
    next =>
      rw [setOf_insert]
      by_cases here : i = area
      · subst here
        rw [if_pos rfl, these, left]
        tauto
      · rw [if_neg here]
        tauto

structure Consistent (p : Presence) : Prop where
  listed : ∀ area client, (p.membersOf area).contains client ↔ p.areaOf client = some area
  inhabited : ∀ area members, p.byArea.find? area = some members → ¬ members.isEmpty

theorem consistent_empty : Consistent {} where
  listed area client := by simp [membersOf, areaOf, Table.contains]
  inhabited area members found := by simp at found

theorem Consistent.mem_clientsIn {p : Presence} (h : p.Consistent) (area client : Nat) :
    client ∈ p.clientsIn area ↔ p.areaOf client = some area := by
  rw [clientsIn, Table.mem_keys_iff, h.listed]

theorem inhabited_withdraw {sets : Table Nat Members}
    (h : ∀ area members, sets.find? area = some members → ¬ members.isEmpty) (old client : Nat) :
    ∀ area members, (withdraw sets old client).find? area = some members → ¬ members.isEmpty := by
  intro area members
  unfold withdraw
  split
  · exact h area members
  · dsimp only
    split
    · rw [Table.find?_erase]
      split
      · intro found
        cases found
      · exact h area members
    next full =>
      rw [Table.find?_insert]
      split
      · rintro ⟨⟩
        exact full
      · exact h area members

/-- Where a client that stands somewhere is taken out, the sets hold the others as before. -/
theorem Consistent.listed_withdraw {p : Presence} (h : p.Consistent) {old client : Nat}
    (stood : p.areaOf client = some old) (area other : Nat) :
    (setOf (withdraw p.byArea old client) area).contains other ↔
      other ≠ client ∧ p.areaOf other = some area := by
  have listed := h.listed area other
  rw [contains_setOf_withdraw, show setOf p.byArea area = p.membersOf area from rfl, listed]
  constructor
  · rintro ⟨there, apart⟩
    refine ⟨?_, there⟩
    rintro rfl
    rw [stood, Option.some.injEq] at there
    exact apart ⟨there.symm, rfl⟩
  · rintro ⟨other_, there⟩
    exact ⟨there, fun same => other_ same.2⟩

theorem Consistent.leave {p : Presence} (h : p.Consistent) (client : Nat) :
    (p.leave client).Consistent := by
  unfold Presence.leave
  split
  · exact h
  next area stood =>
    constructor
    · intro i other
      have sets := h.listed_withdraw stood i other
      refine sets.trans ?_
      simp only [areaOf, Table.find?_erase]
      by_cases same : other = client <;> simp [same]
    · exact inhabited_withdraw h.inhabited area client

/-- Before a client is put into its new set, it is in that set or in none, and the others are
where they were. -/
structure Vacated (p : Presence) (area client : Nat) (sets : Table Nat Members) : Prop where
  others : ∀ i other, other ≠ client →
    ((setOf sets i).contains other ↔ p.areaOf other = some i)
  self : ∀ i, i ≠ area → ¬ (setOf sets i).contains client
  inhabited : ∀ i members, sets.find? i = some members → ¬ members.isEmpty

theorem Consistent.exists_vacated {p : Presence} (h : p.Consistent) (area client : Nat) :
    ∃ sets, p.Vacated area client sets ∧
      (p.join area client).byArea = sets.insert area ((setOf sets area).insert client ()) := by
  have listed : ∀ i other, (setOf p.byArea i).contains other ↔ p.areaOf other = some i := h.listed
  unfold Presence.join
  cases stood : p.areaOf client with
  | none =>
    refine ⟨p.byArea, ⟨fun i other _ => listed i other, ?_, h.inhabited⟩, rfl⟩
    intro i _
    rw [listed, stood]
    simp
  | some old =>
    by_cases stays : old = area
    · refine ⟨p.byArea, ⟨fun i other _ => listed i other, ?_, h.inhabited⟩, ?_⟩
      · intro i apart
        rw [listed, stood, stays]
        simpa using Ne.symm apart
      · simp only [stays, if_true]
        rfl
    · refine ⟨withdraw p.byArea old client, ⟨?_, ?_, inhabited_withdraw h.inhabited old client⟩, ?_⟩
      · intro i other apart
        rw [h.listed_withdraw stood]
        simp [apart]
      · intro i _
        rw [h.listed_withdraw stood]
        simp
      · simp only [stays, if_false]
        rfl

theorem Consistent.join {p : Presence} (h : p.Consistent) (area client : Nat) :
    (p.join area client).Consistent := by
  obtain ⟨sets, vacated, joined⟩ := h.exists_vacated area client
  constructor
  · intro i other
    rw [areaOf_join, membersOf, joined, ← setOf, setOf_insert]
    by_cases here : i = area
    · subst here
      rw [if_pos rfl, Table.contains_insert]
      by_cases same : other = client
      · simp [same]
      · simp [same, vacated.others i other same]
    · rw [if_neg here]
      by_cases same : other = client
      · subst same
        simp [vacated.self i here, Ne.symm here]
      · simp [same, vacated.others i other same]
  · intro i members found
    rw [joined, Table.find?_insert] at found
    split at found
    · cases found
      rw [Table.isEmpty_iff]
      intro nobody
      exact nobody client ((Table.contains_insert _ _ _ _).2 (.inl rfl))
    · exact vacated.inhabited i members found

end Court.Presence
end CourtroomGateway
