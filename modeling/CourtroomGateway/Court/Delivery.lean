import CourtroomGateway.Court.Mailbox
import CourtroomGateway.Court.Presence
import CourtroomGateway.Court.Roster

/-! The court: the roster, presence and mailboxes that all sessions share, and delivery to the
clients of an area. A lossy delivery gives a wire to everyone who has room. A reliable one waits
for room as long as it may, the client it comes from excepted; nothing is taken from a mailbox
while it waits. -/

namespace CourtroomGateway

structure Court where
  roster : Court.Roster := {}
  presence : Court.Presence := {}
  mail : Table Nat Court.Mailbox := ∅
deriving DecidableEq

namespace Court

/-- A new client with an empty mailbox; its id is the roster's next one. -/
def connect (c : Court) (capacity : Nat) : Court :=
  { c with
    roster := c.roster.enrol
    mail := c.mail.insert c.roster.nextId { capacity } }

/-- Removes a client from presence and from the roster. -/
def disconnect (c : Court) (id : Nat) : Court :=
  { c with presence := c.presence.leave id, roster := c.roster.remove id }

def post (c : Court) (id : Nat) (wire : String) : Court :=
  { c with mail := c.mail.modify id fun m => m.offer wire }

def room (c : Court) (id : Nat) : Room :=
  match c.mail.find? id with
  | none => .closed
  | some m => m.room

/-- The connected clients of an area, in ascending order. -/
def recipients (c : Court) (area : Nat) : List Nat :=
  (c.presence.clientsIn area).filter c.roster.contains

def candidates (c : Court) (area except : Nat) : List Speech.Candidate :=
  c.roster.candidates (c.presence.clientsIn area) except

def postAll (c : Court) (ids : List Nat) (wire : String) : Court :=
  ids.foldl (fun c id => c.post id wire) c

def publishLossy (c : Court) (area : Nat) (wire : String) : Court :=
  c.postAll (c.recipients area) wire

/-- A reliable delivery: the court after it, how long it took in milliseconds, and whether it
waits for a client without end. -/
structure Delivery where
  court : Court
  waited : Nat := 0
  stuck : Bool := false
deriving DecidableEq

namespace Delivery

/-- Sends to one client. A timeout of zero sets no limit to the wait. -/
def send (d : Delivery) (wire : String) (timeout : Nat) (origin : Option Nat) (id : Nat) :
    Delivery :=
  if origin = some id then { d with court := d.court.post id wire }
  else
    match d.court.room id with
    | .free => { d with court := d.court.post id wire }
    | .closed => d
    | .full => if timeout = 0 then { d with stuck := true } else { d with waited := timeout }

end Delivery

def publishReliable (c : Court) (area : Nat) (wire : String) (timeout : Nat)
    (origin : Option Nat) : Delivery :=
  (c.recipients area).foldl (fun d id => d.send wire timeout origin id) { court := c }

@[simp] theorem roster_post (c : Court) (id : Nat) (wire : String) :
    (c.post id wire).roster = c.roster := rfl

@[simp] theorem presence_post (c : Court) (id : Nat) (wire : String) :
    (c.post id wire).presence = c.presence := rfl

@[simp] theorem find?_mail_post (c : Court) (id i : Nat) (wire : String) :
    (c.post id wire).mail.find? i =
      if i = id then (c.mail.find? i).map fun m => m.offer wire else c.mail.find? i := by
  simp [post]

@[simp] theorem roster_postAll (c : Court) (ids : List Nat) (wire : String) :
    (c.postAll ids wire).roster = c.roster := by
  induction ids generalizing c with
  | nil => rfl
  | cons id ids ih => exact ih (c.post id wire)

@[simp] theorem presence_postAll (c : Court) (ids : List Nat) (wire : String) :
    (c.postAll ids wire).presence = c.presence := by
  induction ids generalizing c with
  | nil => rfl
  | cons id ids ih => exact ih (c.post id wire)

end Court
end CourtroomGateway
