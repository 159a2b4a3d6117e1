import CourtroomGateway.Session

/-! The gateway: the hall with all live sessions, and its runs. A run is a list of events in
order: a client arrives, sends a chunk, takes what waits for it, departs, or time passes. A chunk
comes with the instants at which the flood clock is read for its messages. -/

namespace CourtroomGateway

structure Gateway where
  handlers : Handlers
  hall : Hall
  sessions : Table Nat Session := ∅

inductive Event
  | arrive (transport : Transport) (now : Nat)
  | send (id : Nat) (readings : Nat → Nat) (chunk : List UInt8)
  | collect (id : Nat)
  | depart (id : Nat)
  | wait (milliseconds : Nat)

namespace Gateway

def ofConfig (handlers : Handlers) (config : Config) : Except ConfigFault Gateway :=
  (Hall.ofConfig config).map fun hall => { handlers, hall }

/-- The visit to a session before anything happened. -/
abbrev visit (g : Gateway) (session : Session) : Visit := ⟨g.hall, session⟩

/-- The gateway after a visit to the client's session. -/
def after (g : Gateway) (id : Nat) (v : Visit) : Gateway :=
  { g with hall := v.hall, sessions := g.sessions.insert id v.session }

/-- A client arrives; it gets the next id unless the server is full. -/
def arrive (g : Gateway) (transport : Transport) (now : Nat) : Except Refusal Nat × Gateway :=
  match g.hall.openSession transport now with
  | .error refusal => (.error refusal, g)
  | .ok v =>
    let id := v.session.client.id
    (.ok id, { g with hall := v.hall, sessions := g.sessions.insert id v.session })

/-- A client sends a chunk. Who has no session sends nothing. -/
def send (g : Gateway) (id : Nat) (readings : Nat → Nat) (chunk : List UInt8) :
    Flow × Gateway :=
  match g.sessions.find? id with
  | none => (.goOn, g)
  | some session =>
    let (flow, v) := (Visit.mk g.hall session).receive g.handlers readings chunk
    (flow, { g with hall := v.hall, sessions := g.sessions.insert id v.session })

/-- The wires that wait for a client, taken out of its mailbox. -/
def collect (g : Gateway) (id : Nat) : List String × Gateway :=
  let wires := ((g.hall.court.mail.find? id).map (·.waiting)).getD []
  let mail := g.hall.court.mail.modify id (·.drain)
  (wires, { g with hall := { g.hall with court := { g.hall.court with mail } } })

def depart (g : Gateway) (id : Nat) : Gateway :=
  match g.sessions.find? id with
  | none => g
  | some session =>
    { g with hall := g.hall.endSession session.client, sessions := g.sessions.erase id }

def wait (g : Gateway) (milliseconds : Nat) : Gateway :=
  { g with hall := { g.hall with clock := g.hall.clock + milliseconds } }

def step (g : Gateway) : Event → Gateway
  | .arrive transport now => (g.arrive transport now).2
  | .send id readings chunk => (g.send id readings chunk).2
  | .collect id => (g.collect id).2
  | .depart id => g.depart id
  | .wait milliseconds => g.wait milliseconds

def run (g : Gateway) (events : List Event) : Gateway := events.foldl step g

theorem run_append (g : Gateway) (a b : List Event) : g.run (a ++ b) = (g.run a).run b :=
  List.foldl_append

end Gateway
end CourtroomGateway
