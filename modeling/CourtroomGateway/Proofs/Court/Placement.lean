import CourtroomGateway.Proofs.Court.Presence
import Mathlib.Logic.Function.Basic

/-! Presence as one map from clients to areas. A client that joins an area is put there, whatever
it had before, and one that leaves is taken out. After any moves presence answers all questions by
this map alone, so its two sides are nothing but two ways to look at it. -/

namespace CourtroomGateway.Court.Presence

/-- Where each client is. -/
abbrev Placement := Nat → Option Nat

namespace Placement

/-- The placement after a move. -/
def make (m : Placement) : Move → Placement
  | .join area client => Function.update m client (some area)
  | .leave client => Function.update m client none

/-- The placement after moves in order, where nobody was anywhere before. -/
def ofMoves (moves : List Move) : Placement := moves.foldl make fun _ => none

end Placement

/-- Presence holds the placement, and its two sides agree. -/
structure Represents (p : Presence) (m : Placement) : Prop where
  consistent : p.Consistent
  place : ∀ client, p.areaOf client = m client

theorem represents_empty : Represents {} fun _ => none where
  consistent := consistent_empty
  place _ := rfl

theorem Represents.make {p : Presence} {m : Placement} (h : p.Represents m) (move : Move) :
    (p.make move).2.Represents (m.make move) := by
  cases move with
  | join area client =>
    refine ⟨h.consistent.join area client, fun i => ?_⟩
    rw [Placement.make, Function.update_apply, ← h.place i]
    exact areaOf_join p area client i
  | leave client =>
    refine ⟨h.consistent.leave client, fun i => ?_⟩
    rw [Placement.make, Function.update_apply, ← h.place i]
    exact areaOf_leave p client i

theorem Represents.makeAll {p : Presence} {m : Placement} (h : p.Represents m)
    (moves : List Move) : (p.makeAll moves).Represents (moves.foldl Placement.make m) := by
  induction moves generalizing p m with
  | nil => exact h
  | cons move moves ih => exact ih (h.make move)

theorem ascending_clientsIn (p : Presence) (area : Nat) :
    (p.clientsIn area).Pairwise (· < ·) :=
  (Table.keys_ascending _).imp Nat.compare_eq_lt.1

/-- All that presence answers and holds is what the placement says. -/
structure Implements (p : Presence) (m : Placement) : Prop where
  place : ∀ client, p.areaOf client = m client
  ascending : ∀ area, (p.clientsIn area).Pairwise (· < ·)
  listed : ∀ area client, client ∈ p.clientsIn area ↔ m client = some area
  counted : ∀ area, p.countIn area = (p.clientsIn area).length
  /-- What the next move is answered with. -/
  answered : ∀ move, (p.make move).1 = m move.client
  /-- A client that is somewhere is in one set, that of its area. -/
  seated : ∀ client area, m client = some area →
    (p.membersOf area).contains client ∧ ∀ i, (p.membersOf i).contains client → i = area
  absent : ∀ client, m client = none → ∀ area, ¬ (p.membersOf area).contains client
  inhabited : ∀ area members, p.byArea.find? area = some members → ¬ members.isEmpty

theorem Represents.implements {p : Presence} {m : Placement} (h : p.Represents m) :
    p.Implements m := by
  have listed (area client : Nat) : (p.membersOf area).contains client ↔ m client = some area := by
    rw [h.consistent.listed, h.place]
  refine
    { place := h.place
      ascending := p.ascending_clientsIn
      listed := fun area client => ?_
      counted := fun area => (List.length_map _).symm
      answered := fun move => ?_
      seated := fun client area there => ⟨(listed area client).2 there, fun i other => ?_⟩
      absent := fun client nowhere area there => ?_
      inhabited := h.consistent.inhabited }
  · rw [h.consistent.mem_clientsIn, h.place]
  · cases move with
    | join area client => exact h.place client
    | leave client => exact h.place client
  · have both := ((listed i client).1 other).symm.trans there
    exact Option.some.inj both
  · have both := nowhere.symm.trans ((listed area client).1 there)
    cases both

/-- After any moves presence is the placement that they make. -/
theorem implements_ofMoves (moves : List Move) :
    (makeAll {} moves).Implements (Placement.ofMoves moves) :=
  (represents_empty.makeAll moves).implements

end CourtroomGateway.Court.Presence
