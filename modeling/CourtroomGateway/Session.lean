import CourtroomGateway.Commands.Dispatch
import CourtroomGateway.Flood
import CourtroomGateway.Wire.Framer

/-! Sessions. A session frames what its client sends, drops what exceeds the flood allowance, and
dispatches the rest in order. A recoverable fault changes nothing for the session; any other, or
a crash, closes it and leaves the rest of the chunk unread. When flood control itself overflows the
session breaks off at that message, without a reason given. -/

namespace CourtroomGateway

structure Session where
  client : Client
  framer : Wire.Framer
  bucket : Flood.Bucket

inductive Closing
  | handlerFault | handlerCrash
deriving Repr, DecidableEq

def Closing.reason : Closing → String
  | handlerFault => "handler error"
  | handlerCrash => "handler panic"

/-- Whether a session goes on after a chunk, and why not. It is closed for a reason, or broken off
by an overflow of its flood control, of which it gives no account. -/
inductive Flow
  | goOn
  | close (why : Closing)
  | broken
deriving Repr, DecidableEq

structure Visit where
  hall : Hall
  session : Session

def Outcome.flow : Outcome → Flow
  | done => .goOn
  | refused fault => if fault.isRecoverable then .goOn else .close .handlerFault
  | crashed => .close .handlerCrash

namespace Visit

def scene (v : Visit) : Scene := ⟨v.hall, v.session.client⟩

def withScene (v : Visit) (s : Scene) : Visit :=
  { hall := s.hall, session := { v.session with client := s.client } }

def recordOverflow (v : Visit) : Visit :=
  { v with
    hall :=
      { v.hall with
        metrics :=
          { v.hall.metrics with
            framingOverflows :=
              v.hall.metrics.framingOverflows.inc [v.session.client.transport.label] } } }

def recordDrop (v : Visit) : Visit :=
  { v with
    hall :=
      { v.hall with
        metrics :=
          { v.hall.metrics with
            floodDrops := v.hall.metrics.floodDrops.inc [] } } }

/-- The packet of a message, if there is one and it passes flood control. -/
def packet? (now : Nat) (v : Visit) (message : String) : Option Wire.Packet :=
  match (v.session.bucket.check now).1 with
  | .pass => Wire.Packet.parse? message
  | _ => none

theorem parse_of_packet? {now : Nat} {v : Visit} {message : String} {p : Wire.Packet}
    (found : v.packet? now message = some p) : Wire.Packet.parse? message = some p := by
  unfold packet? at found
  split at found
  · exact found
  · cases found

/-- The visit after the flood check of one message. -/
def charged (now : Nat) (v : Visit) : Visit :=
  { v with session := { v.session with bucket := (v.session.bucket.check now).2 } }

/-- Handles one message at an instant of the flood clock. A message without a command costs
nothing. -/
def handle (handlers : Handlers) (now : Nat) (v : Visit) (message : String) : Flow × Visit :=
  match Wire.Packet.parse? message with
  | none => (.goOn, v)
  | some packet =>
    let (verdict, bucket) := v.session.bucket.check now
    let v := { v with session := { v.session with bucket } }
    match verdict with
    | .overflow => (.broken, v)
    | .drop => (.goOn, v.recordDrop)
    | .pass =>
      let r := handlers.dispatch v.scene packet
      (r.outcome.flow, v.withScene r.scene)

/-- Handles messages in order, each at its instant, until one ends the session. -/
def handleAll (handlers : Handlers) (v : Visit) : List (Nat × String) → Flow × Visit
  | [] => (.goOn, v)
  | (now, message) :: messages =>
    match v.handle handlers now message with
    | (.goOn, v) => v.handleAll handlers messages
    | ended => ended

/-- Messages with the instants at which the flood clock is read for them, one after the other. -/
def timed (readings : Nat → Nat) (messages : List String) : List (Nat × String) :=
  messages.mapIdx fun i message => (readings i, message)

/-- The visit when a chunk was framed and none of its messages handled. -/
def framed (v : Visit) (chunk : List UInt8) : Visit :=
  let v' := { v with session := { v.session with framer := (v.session.framer.feed chunk).2 } }
  if (v.session.framer.feed chunk).1.overflow.isSome then v'.recordOverflow else v'

/-- Handles one chunk of bytes. The flood clock is read for each message. -/
def receive (handlers : Handlers) (readings : Nat → Nat) (v : Visit) (chunk : List UInt8) :
    Flow × Visit :=
  let (framed, framer) := v.session.framer.feed chunk
  let v := { v with session := { v.session with framer } }
  let v := if framed.overflow.isSome then v.recordOverflow else v
  v.handleAll handlers (timed readings framed.messages)

theorem receive_eq (handlers : Handlers) (readings : Nat → Nat) (v : Visit)
    (chunk : List UInt8) :
    v.receive handlers readings chunk =
      (v.framed chunk).handleAll handlers
        (timed readings (v.session.framer.feed chunk).1.messages) := rfl

end Visit

namespace Hall

/-- The number of wires that may wait for one client. -/
def mailboxCapacity : Nat := 1024

def recordOpening (h : Hall) (transport : Transport) : Hall :=
  { h with
    metrics :=
      { h.metrics with
        connections := h.metrics.connections.inc [transport.label]
        activeSessions := h.metrics.activeSessions.inc [transport.label] } }

def recordClosing (h : Hall) (transport : Transport) : Hall :=
  { h with
    metrics :=
      { h.metrics with
        activeSessions := h.metrics.activeSessions.dec [transport.label] } }

/-- Opens a session and greets its client, unless the server is full. -/
def openSession (h : Hall) (transport : Transport) (now : Nat) : Except Refusal Visit :=
  let server := h.config.server
  if server.maxPlayers ≤ h.players then .error .serverFull
  else
    let (client, h) := h.enrol mailboxCapacity transport
    let hello := (Wire.Packet.named "decryptor").nat 34
    let s := (Scene.mk (h.recordOpening transport) client).reply hello
    .ok
      { hall := s.hall
        session :=
          { client := s.client
            framer := .withLimit server.maxBuffer
            bucket := .new h.config.flood.rate h.config.flood.burst now } }

/-- Ends a session: its client leaves presence, the roster and its mailbox. -/
def endSession (h : Hall) (client : Client) : Hall :=
  let court := h.court.disconnect client.id
  { h with court := { court with mail := court.mail.erase client.id } }.recordClosing
    client.transport

end Hall
end CourtroomGateway
