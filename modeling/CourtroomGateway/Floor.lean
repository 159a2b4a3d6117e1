import CourtroomGateway.Court.Sending
import CourtroomGateway.Gateway

/-! The floor: the gateway while what some clients said is still being delivered. Speech waits for
recipients whose mailboxes are full, and until it has been delivered or given up, its sender handles
no further packet. All others go on meanwhile: they move, leave and take what waits for them, so a
wire may be put into a mailbox long after its recipients were determined. A step belongs to the
client whose packet it handles, if there is one. -/

namespace CourtroomGateway

/-- The packet is speech that goes to the area. -/
def Scene.SpeaksOut (s : Scene) (p : Wire.Packet) (area : Nat) (m : Speech.Message) : Prop :=
  p.command = "MS" ∧ Commands.Speaking.judge s p = .spoken area m

/-- The scene when the client's message is counted, and its pose is shown. -/
def Scene.shown (s : Scene) (m : Speech.Message) : Scene :=
  Commands.Speaking.commitPose (Commands.Speaking.note s m) m

/-- The sends with which the client's speech begins. -/
def Scene.sending (s : Scene) (area : Nat) (m : Speech.Message) : Court.Sending :=
  (s.shown m).hall.court.beginSending area
    (m.broadcast (Commands.Speaking.pairing s area m)).toWire (some s.client.id)

/-- The scene when the sends have begun. -/
def Scene.speakUp (s : Scene) (area : Nat) (m : Speech.Message) : Scene :=
  { s.shown m with hall := { (s.shown m).hall with court := (s.sending area m).court } }

/-- What a client is saying: the wire, the clients it has still to be sent to, and the time of the
hall's clock at which it was begun. -/
structure Outgoing where
  wire : String
  pending : List Nat
  since : Nat

structure Floor where
  gateway : Gateway
  speaking : Table Nat Outgoing := ∅

namespace Floor

def court (f : Floor) : Court := f.gateway.hall.court

/-- The floor with another court. -/
def inCourt (f : Floor) (court : Court) : Floor :=
  { f with gateway := { f.gateway with hall := { f.gateway.hall with court } } }

/-- The sends of what a client is saying, as far as they have come. -/
def sending (f : Floor) (u : Outgoing) : Court.Sending :=
  { court := f.court, pending := u.pending, elapsed := f.gateway.hall.clock - u.since }

/-- The floor when the sends of a client's speech have come so far. -/
def sent (f : Floor) (id : Nat) (u : Outgoing) (s : Court.Sending) : Floor :=
  { f.inCourt s.court with speaking := f.speaking.insert id { u with pending := s.pending } }

/-- Speech that passes flood control begins: the visit pays for it, and the sends wait. -/
def begun (f : Floor) (id : Nat) (v : Visit) (area : Nat) (m : Speech.Message) : Floor where
  gateway := f.gateway.after id (v.withScene (v.scene.speakUp area m))
  speaking :=
    f.speaking.insert id
      { wire := (m.broadcast (Commands.Speaking.pairing v.scene area m)).toWire
        pending := (v.scene.sending area m).pending
        since := f.gateway.hall.clock }

/-- Speech has been delivered: the time that it took is recorded, and its sender goes on. -/
def ended (f : Floor) (id : Nat) (session : Session) (u : Outgoing) : Floor where
  gateway :=
    let v := f.gateway.visit session
    f.gateway.after id (v.withScene (Handlers.recordDuration "MS" u.since v.scene))
  speaking := f.speaking.erase id

/-- What may happen next, and whose packet it belongs to. It is not asked which messages a client
has sent: any may be handled, at any instant of the flood clock, unless the client is still
speaking. -/
inductive Next (f : Floor) : Option Nat → Floor → Prop
  | arrives (transport : Transport) (now : Nat) :
      Next f none { f with gateway := (f.gateway.arrive transport now).2 }
  | frames {id : Nat} {session : Session} (live : f.gateway.sessions.find? id = some session)
      (silent : f.speaking.find? id = none) (chunk : List UInt8) :
      Next f none
        { f with gateway := f.gateway.after id ((f.gateway.visit session).framed chunk) }
  | handles {id : Nat} {session : Session} (live : f.gateway.sessions.find? id = some session)
      (silent : f.speaking.find? id = none) {now : Nat} {message : String}
      (unspoken : ∀ p area m, (f.gateway.visit session).packet? now message = some p →
        ¬ (f.gateway.visit session).scene.SpeaksOut p area m) :
      Next f (some id)
        { f with
          gateway :=
            f.gateway.after id
              ((f.gateway.visit session).handle f.gateway.handlers now message).2 }
  | begins {id : Nat} {session : Session} (live : f.gateway.sessions.find? id = some session)
      (silent : f.speaking.find? id = none) {now : Nat} {message : String} {p : Wire.Packet}
      (heard : (f.gateway.visit session).packet? now message = some p) {area : Nat}
      {m : Speech.Message} (speaks : (f.gateway.visit session).scene.SpeaksOut p area m) :
      Next f (some id) (f.begun id ((f.gateway.visit session).charged now) area m)
  | sends {id : Nat} {u : Outgoing} (saying : f.speaking.find? id = some u) {s : Court.Sending}
      (next : (f.sending u).Next u.wire Commands.speechTimeout s) :
      Next f (some id) (f.sent id u s)
  | ends {id : Nat} {session : Session} (live : f.gateway.sessions.find? id = some session)
      {u : Outgoing} (saying : f.speaking.find? id = some u) (done : u.pending = []) :
      Next f (some id) (f.ended id session u)
  | receives (id : Nat) (takes : Court.Mailbox → Court.Mailbox)
      (received : ∀ m : Court.Mailbox, m.Received (takes m)) :
      Next f none (f.inCourt { f.court with mail := f.court.mail.modify id takes })
  | departs {id : Nat} (silent : f.speaking.find? id = none) :
      Next f none { f with gateway := f.gateway.depart id }
  | waits (milliseconds : Nat) : Next f none { f with gateway := f.gateway.wait milliseconds }

/-- The states of the floor under a configuration, whatever happens in whatever order. -/
inductive Reached (config : Config) : Floor → Prop
  | opened {g : Gateway} (accepted : Gateway.ofConfig .builtin config = .ok g) :
      Reached config { gateway := g }
  | next {f f' : Floor} {actor : Option Nat} (before : Reached config f)
      (step : f.Next actor f') : Reached config f'

/-- The client goes on saying what it is saying, while other things happen. -/
inductive Persists (id : Nat) (f : Floor) : Floor → Prop
  | here : Persists id f f
  | next {f' f'' : Floor} {actor : Option Nat} (before : Persists id f f')
      (step : f'.Next actor f'') (saying : f''.speaking.contains id) : Persists id f f''

end Floor
end CourtroomGateway
