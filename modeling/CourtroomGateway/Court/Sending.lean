import CourtroomGateway.Court.Delivery

/-! A reliable delivery in its single sends. All begin together, and they go on side by side in an
order that nobody knows, until each has found room, has met a mailbox without a listener or has
waited for as long as it may. -/

namespace CourtroomGateway.Court

/-- A reliable delivery that is going on: the clients it has still to serve, and the milliseconds
for which they have waited. -/
structure Sending where
  court : Court
  pending : List Nat
  elapsed : Nat := 0

namespace Sending

/-- What may happen next. A send finds room, meets a mailbox without a listener or gives up, or
time passes. A timeout of zero sets no limit. -/
inductive Next (wire : String) (timeout : Nat) (s : Sending) : Sending → Prop
  | sent {id : Nat} (waits : id ∈ s.pending) (free : s.court.room id = .free) :
      Next wire timeout s { s with court := s.court.post id wire, pending := s.pending.erase id }
  | failed {id : Nat} (waits : id ∈ s.pending) (closed : s.court.room id = .closed) :
      Next wire timeout s { s with pending := s.pending.erase id }
  | expired {id : Nat} (waits : id ∈ s.pending) (full : s.court.room id = .full)
      (limited : 0 < timeout) (late : timeout ≤ s.elapsed) :
      Next wire timeout s { s with pending := s.pending.erase id }
  | waited (milliseconds : Nat) :
      Next wire timeout s { s with elapsed := s.elapsed + milliseconds }

end Sending

/-- A reliable delivery begins: the origin is offered the wire at once, and all others wait. -/
def beginSending (c : Court) (area : Nat) (wire : String) (origin : Option Nat) : Sending where
  court := c.postAll ((c.recipients area).filter (origin = some ·)) wire
  pending := (c.recipients area).filter (origin ≠ some ·)

end CourtroomGateway.Court
