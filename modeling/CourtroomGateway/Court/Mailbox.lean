/-! Mailboxes: the bounded queue of wires that wait for one client. A wire is put at the end when
the client still listens and there is room; else it is lost or has to wait. -/

namespace CourtroomGateway.Court

structure Mailbox where
  capacity : Nat
  waiting : List String := []
  listening : Bool := true
  waiting_le : waiting.length ≤ capacity := by exact Nat.zero_le _
deriving Repr, DecidableEq

/-- What sending to a mailbox meets. -/
inductive Room
  | free | full | closed
deriving Repr, DecidableEq

namespace Mailbox

def room (m : Mailbox) : Room :=
  if m.listening then if m.waiting.length < m.capacity then .free else .full else .closed

/-- Puts a wire at the end if it can be put there at once. -/
def offer (m : Mailbox) (wire : String) : Mailbox :=
  if h : m.listening ∧ m.waiting.length < m.capacity then
    { m with
      waiting := m.waiting ++ [wire]
      waiting_le := by simpa using Nat.succ_le_of_lt h.2 }
  else m

/-- Takes everything that waits. -/
def drain (m : Mailbox) : Mailbox := { m with waiting := [], waiting_le := Nat.zero_le _ }

/-- The client no longer listens, and what waited is gone. -/
def close (m : Mailbox) : Mailbox :=
  { m with waiting := [], listening := false, waiting_le := Nat.zero_le _ }

/-- A receiver took wires from the front of its mailbox, or went away and left none behind. -/
structure Received (m m' : Mailbox) : Prop where
  capacity : m'.capacity = m.capacity
  waiting : m'.waiting <:+ m.waiting
  listening : m'.listening → m.listening

theorem received_drain (m : Mailbox) : m.Received m.drain :=
  ⟨rfl, List.nil_suffix, fun listening => listening⟩

theorem received_close (m : Mailbox) : m.Received m.close :=
  ⟨rfl, List.nil_suffix, nofun⟩

theorem waiting_offer (m : Mailbox) (wire : String) :
    (m.offer wire).waiting = if m.room = .free then m.waiting ++ [wire] else m.waiting := by
  unfold offer room
  by_cases hl : m.listening <;> by_cases hc : m.waiting.length < m.capacity <;> simp [hl, hc]

@[simp] theorem capacity_offer (m : Mailbox) (wire : String) :
    (m.offer wire).capacity = m.capacity := by
  unfold offer
  split <;> rfl

@[simp] theorem listening_offer (m : Mailbox) (wire : String) :
    (m.offer wire).listening = m.listening := by
  unfold offer
  split <;> rfl

theorem offer_of_not_free {m : Mailbox} (h : m.room ≠ .free) (wire : String) :
    m.offer wire = m := by
  unfold offer
  split
  next hf => exact absurd (by simp [room, hf]) h
  next => rfl

end Mailbox
end CourtroomGateway.Court
