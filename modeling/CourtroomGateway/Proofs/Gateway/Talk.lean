import CourtroomGateway.Proofs.Gateway.Heard
import CourtroomGateway.Proofs.Gateway.Survival
import CourtroomGateway.Proofs.Metrics.Entries

/-! Talk: speech, chat, and requests for music that name no area. All that a packet of talk does is
told by what is said with it: a pose that the client shows, a packet for its area, the dialect it
speaks, entries in the metrics, and the time that the receivers take. -/

namespace CourtroomGateway

/-- The packet is speech, or chat, or asks for music by a name that no area has. -/
inductive Config.Talk (c : Config) (p : Wire.Packet) : Prop
  | speech (command : p.command = "MS")
  | chat (command : p.command = "CT")
  | track (command : p.command = "MC")
      (noArea : ∀ raw, p.args.head? = some raw → ∀ a ∈ c.areas, a.name ≠ Wire.unescape raw)

/-- What is said with a packet of talk. -/
structure Utterance where
  pose : Option Speech.Pose := none
  relay : Option (Nat × Wire.Packet) := none
  dialect : Option Speech.Dialect := none
  entries : List Metrics.Entry := []
  waits : Nat := 0

/-- The client shows the pose, and the packet is passed on in its area. -/
def Court.utter (c : Court) (id : Nat) (u : Utterance) : Court where
  roster :=
    match u.pose with
    | none => c.roster
    | some pose => c.roster.setPose id pose
  presence := c.presence
  mail :=
    match u.relay with
    | none => c.mail
    | some (area, packet) => (c.publishLossy area packet.toWire).mail

def Hall.utter (h : Hall) (id : Nat) (u : Utterance) : Hall where
  config := h.config
  court := h.court.utter id u
  metrics := h.metrics.enterAll u.entries
  clock := h.clock + u.waits

def Client.utter (c : Client) (u : Utterance) : Client :=
  { c with dialect := u.dialect.or c.dialect }

def Scene.utter (s : Scene) (u : Utterance) : Scene :=
  ⟨s.hall.utter s.client.id u, s.client.utter u⟩

theorem Court.publishLossy_eq_utter (c : Court) (id area : Nat) (packet : Wire.Packet) :
    c.publishLossy area packet.toWire = c.utter id { relay := some (area, packet) } :=
  eq_of_parts (roster_postAll _ _ _) (presence_postAll _ _ _) rfl

namespace Request

/-- What is asked for with a packet of talk. -/
def IsTalk : Request → Prop
  | speaking _ => True
  | chatting _ => True
  | music (.play _ _ _) => True
  | _ => False

def entries : Request → List Metrics.Entry
  | speaking (.unread error) => [.unread [⟨"reason", error.reason⟩]]
  | speaking (.silent m) => [.read [⟨"dialect", m.dialect.name⟩]]
  | speaking (.spoken _ m) => [.read [⟨"dialect", m.dialect.name⟩]]
  | _ => []

def utterance (s : Scene) (request : Request) : Utterance where
  pose :=
    match request with
    | speaking (.spoken _ m) => if m.commitsPose then some (.ofMessage m) else none
    | _ => none
  relay := request.relay? s
  dialect :=
    match request with
    | speaking (.silent m) => some m.dialect
    | speaking (.spoken _ m) => some m.dialect
    | _ => none
  entries := request.entries
  waits :=
    match request with
    | speaking (.spoken area m) => (s.delivery area m).waited
    | _ => 0

theorem perform_spoken (s : Scene) (area : Nat) (m : Speech.Message) :
    Commands.Speaking.perform (.spoken area m) s =
      { hall :=
          { s.hall with
            court := (s.delivery area m).court
            metrics := (Commands.Speaking.note s m).hall.metrics
            clock := s.hall.clock + (s.delivery area m).waited }
        client := { s.client with dialect := some m.dialect } } := by
  by_cases commits : m.commitsPose
  · simp only [Commands.Speaking.perform, Scene.delivery, Commands.Speaking.commitPose,
      if_pos commits]
    rfl
  · simp only [Commands.Speaking.perform, Scene.delivery, Commands.Speaking.commitPose,
      if_neg commits]
    rfl

theorem court_perform_spoken (s : Scene) (area : Nat) (m : Speech.Message) :
    (Commands.Speaking.perform (.spoken area m) s).hall.court =
      s.hall.court.utter s.client.id ((speaking (.spoken area m)).utterance s) := by
  have relayed : (speaking (.spoken area m)).relay? s =
      some (area, m.broadcast (Commands.Speaking.pairing s area m)) := rfl
  refine Court.eq_of_parts ?_ (s.presence_spoken area m) (mail_of_relay relayed)
  rw [Scene.roster_spoken, Court.utter, utterance]
  split
  · rfl
  · rfl

/-- All that talk does is told by its utterance. -/
theorem perform_of_isTalk {request : Request} (talk : request.IsTalk) (s : Scene) :
    request.perform s = s.utter (request.utterance s) := by
  have passed (area : Nat) (packet : Wire.Packet) :
      { s with hall := s.hall.publishLossy area packet } =
        s.utter { relay := some (area, packet) } := by
    rw [Hall.publishLossy, s.hall.court.publishLossy_eq_utter s.client.id]
    rfl
  cases request with
  | joining act => exact talk.elim
  | character act => exact talk.elim
  | chatting act => exact passed _ _
  | music act =>
    cases act with
    | stay => exact talk.elim
    | move index area => exact talk.elim
    | play area track showname => exact passed _ _
  | speaking act =>
    cases act with
    | unread error => rfl
    | silent m => rfl
    | spoken area m =>
      have court := court_perform_spoken s area m
      have performed := perform_spoken s area m
      rw [performed] at court
      refine performed.trans ?_
      simp only at court
      rw [court]
      rfl

end Request

namespace Handlers

/-- The time that dispatch records for a handler that waited so many milliseconds. -/
def timed (p : Wire.Packet) (waits : Nat) : Metrics.Entry :=
  .timed [⟨"cmd", p.command⟩] (waits * 1000000)

/-- The entries of a whole turn: those of its request, and what dispatch adds. -/
def entries (p : Wire.Packet) (waits : Nat) : Except Refusal Request → List Metrics.Entry
  | .error refusal =>
    if builtin.table.contains p.command then
      [timed p 0, .failed [⟨"cmd", p.command⟩, ⟨"code", refusal.toFault.code.name⟩]]
    else [.unknown]
  | .ok request => request.entries ++ [timed p waits]

def outcome : Except Refusal Request → Outcome
  | .error refusal => .refused refusal.toFault
  | .ok _ => .done

end Handlers

namespace Scene

theorem recordDuration_utter (s : Scene) (u : Utterance) (p : Wire.Packet) :
    Handlers.recordDuration p.command s.hall.clock (s.utter u) =
      s.utter { u with entries := u.entries ++ [Handlers.timed p u.waits] } := by
  have waited : (s.utter u).hall.clock - s.hall.clock = u.waits := Nat.add_sub_cancel_left _ _
  simp only [Handlers.recordDuration, waited]
  simp only [utter, Hall.utter, Metrics.enterAll_append]
  rfl

theorem refuse_eq_utter (s : Scene) (p : Wire.Packet) (refusal : Refusal) :
    Handlers.refuse s p refusal = s.utter { entries := Handlers.entries p 0 (.error refusal) } := by
  unfold Handlers.refuse Handlers.entries
  split
  · simp only [Handlers.recordDuration, Nat.sub_self]
    rfl
  · rfl

/-- What is said with a packet, if it is one of talk. -/
def utterance (s : Scene) (p : Wire.Packet) : Utterance :=
  match s.request p with
  | .error refusal => { entries := Handlers.entries p 0 (.error refusal) }
  | .ok request =>
    { request.utterance s with
      entries := Handlers.entries p (request.utterance s).waits (.ok request) }

section Talk
variable {s : Scene} {p : Wire.Packet} (talk : s.hall.config.Talk p)
include talk

theorem isTalk_of_request {request : Request} (asked : s.request p = .ok request) :
    request.IsTalk := by
  cases talk with
  | speech command =>
    rw [request_speech command] at asked
    obtain rfl := Except.ok.inj asked
    trivial
  | chat command =>
    have chats : s.request p = (Commands.chatting.decide s p).map .chatting := by
      simp [Scene.request, command]
    rw [chats] at asked
    obtain ⟨act, -, rfl⟩ := Except.map_eq_ok_iff.1 asked
    trivial
  | track command noArea =>
    have plays : s.request p = (Commands.music.decide s p).map .music := by
      simp [Scene.request, command]
    rw [plays] at asked
    obtain ⟨act, decided, rfl⟩ := Except.map_eq_ok_iff.1 asked
    cases sent : p.args.head? with
    | none =>
      have nothing := List.head?_eq_none_iff.1 sent
      simp [Commands.music, Commands.Music.decide, nothing] at decided
    | some raw =>
      have missing := Config.areaIndex?_eq_none_iff.2 (noArea raw sent)
      obtain ⟨area, track, showname, rfl⟩ :=
        Commands.Music.decide_of_missing sent missing decided
      trivial

theorem dispatch_talk :
    Handlers.builtin.dispatch s p = ⟨s.utter (s.utterance p), Handlers.outcome (s.request p)⟩ := by
  rw [Handlers.dispatch_builtin, utterance]
  cases asked : s.request p with
  | error refusal =>
    rw [Handlers.answer, refuse_eq_utter]
    rfl
  | ok request =>
    rw [Handlers.answer, Request.perform_of_isTalk (isTalk_of_request talk asked),
      recordDuration_utter]
    rfl

end Talk

theorem relay_utterance (s : Scene) (p : Wire.Packet) : (s.utterance p).relay = s.relay? p := by
  unfold utterance relay?
  cases s.request p with
  | error refusal => rfl
  | ok request => rfl

/-- What is passed on goes to the client's own area. -/
theorem area_of_relay {s : Scene} {p : Wire.Packet} {area : Nat} {packet : Wire.Packet}
    (relayed : (s.utterance p).relay = some (area, packet)) : s.client.area = some area := by
  rw [relay_utterance] at relayed
  cases relay?_eq_some_iff.1 relayed <;> assumption

end Scene
end CourtroomGateway
