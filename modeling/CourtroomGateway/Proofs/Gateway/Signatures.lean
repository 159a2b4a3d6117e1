import CourtroomGateway.Proofs.Gateway.Deliveries
import CourtroomGateway.Proofs.Gateway.Exclusive

/-! In whose name a wire is passed on. Speech and tracks carry the character of the client they
come from, as the roster has it and whatever the client claimed, in a fixed argument of the wire.
Nobody else in the client's area holds that character. -/

namespace CourtroomGateway

namespace Wire

/-- The wire starts with this command. -/
def Opens (wire command : String) : Prop := command.toList ++ ['#'] <+: wire.toList

/-- An argument of a wire, as it is counted by someone who only has the wire. -/
def argument? (wire : String) (i : Nat) : Option String :=
  ((wire.toList.splitOn '#')[i + 1]?).map String.ofList

theorem Packet.opens_toWire (p : Packet) : Opens p.toWire p.command := by
  rw [Opens, toList_toWire, wireChars]
  cases p.args with
  | nil => exact ⟨['%'], by simp⟩
  | cons a rest => exact ⟨a.toList ++ (rest.flatMap ('#' :: ·.toList) ++ ['#', '%']), by simp⟩

namespace Packet.Separated
variable {p : Packet} (h : p.Separated)
include h

theorem splitOn_toWire :
    p.toWire.toList.splitOn '#' =
      p.command.toList :: (p.args.map (·.toList) ++ ["%".toList]) := by
  have plain : ∀ piece ∈ p.args.map (·.toList) ++ ["%".toList], '#' ∉ piece := by
    simpa [or_imp, forall_and] using h.args
  have pieces := Text.splitOn_separated h.command plain
  rw [List.flatMap_append, List.flatMap_map] at pieces
  rwa [toList_toWire, wireChars, List.append_assoc]

theorem argument?_toWire {i : Nat} {a : String} (there : p.args[i]? = some a) :
    argument? p.toWire i = some a := by
  have inside : i < p.args.length := (List.getElem?_eq_some_iff.1 there).1
  rw [argument?, h.splitOn_toWire, List.getElem?_cons_succ,
    List.getElem?_append_left (by rwa [List.length_map]), List.getElem?_map, there]
  simp

theorem command_of_opens {command : String} (plain : '#' ∉ command.toList)
    (opens : Opens p.toWire command) : p.command = command := by
  obtain ⟨rest, whole⟩ := opens
  have pieces := h.splitOn_toWire
  rw [← whole, List.append_assoc, List.singleton_append,
    List.splitOn_append_cons_self_of_not_mem plain] at pieces
  exact (String.toList_inj.1 (List.cons.inj pieces).1).symm

end Packet.Separated
end Wire

theorem Court.Roster.charId?_setPose (r : Roster) (id : Nat) (pose : Speech.Pose) (i : Nat) :
    (r.setPose id pose).charId? i = r.charId? i := by
  simp only [charId?, find?_setPose]
  split
  · rw [Option.map_map]
    rfl
  · rfl

/-- The client plays the character in the area, and nobody else there has it. -/
structure Court.Plays (c : Court) (id area : Nat) (charId : Int64) : Prop where
  holds : c.roster.charId? id = some charId
  plays : 0 ≤ charId
  there : c.presence.areaOf id = some area
  alone : ∀ other, other ≠ id → c.presence.areaOf other = some area →
    c.roster.charId? other ≠ some charId

theorem Court.Plays.transfer {c c' : Court} {id area : Nat} {charId : Int64}
    (h : c.Plays id area charId) (character : ∀ i, c'.roster.charId? i = c.roster.charId? i)
    (presence : c'.presence = c.presence) : c'.Plays id area charId where
  holds := (character id).trans h.holds
  plays := h.plays
  there := presence ▸ h.there
  alone other apart beside := by
    rw [character other]
    exact h.alone other apart (presence ▸ beside)

/-- Passing something on changes nobody's character and moves nobody. -/
theorem Request.settled_of_relay {request : Request} {s : Scene} {area : Nat}
    {packet : Wire.Packet} (relayed : request.relay? s = some (area, packet)) :
    (∀ i, (request.perform s).hall.court.roster.charId? i = s.hall.court.roster.charId? i) ∧
      (request.perform s).hall.court.presence = s.hall.court.presence := by
  have settled {t : Scene} (same : s.Alike t) :
      (∀ i, t.hall.court.roster.charId? i = s.hall.court.roster.charId? i) ∧
        t.hall.court.presence = s.hall.court.presence :=
    ⟨fun i => by rw [same.roster], same.presence⟩
  cases request with
  | joining act => cases act <;> cases relayed
  | character act => cases relayed
  | chatting act => exact settled (s.alike_publishLossy _ _)
  | music act =>
    cases act with
    | stay => cases relayed
    | move index place => cases relayed
    | play place track showname => exact settled (s.alike_publishLossy _ _)
  | speaking act =>
    cases act with
    | unread error => cases relayed
    | silent m => cases relayed
    | spoken place m =>
      by_cases commits : m.commitsPose
      · have same := Scene.alike_spoken_of_commits commits s place
        refine ⟨fun i => ?_, same.presence⟩
        exact (congrArg (·.charId? i) same.roster).trans (Court.Roster.charId?_setPose _ _ _ _)
      · exact settled (Scene.alike_spoken commits s place)

namespace Scene

theorem settled_dispatch {s : Scene} {p packet : Wire.Packet} {area : Nat}
    (relayed : s.relay? p = some (area, packet)) :
    (∀ i, (Handlers.builtin.dispatch s p).scene.hall.court.roster.charId? i =
        s.hall.court.roster.charId? i) ∧
      (Handlers.builtin.dispatch s p).scene.hall.court.presence = s.hall.court.presence := by
  unfold relay? at relayed
  rw [Handlers.dispatch_builtin]
  cases asked : s.request p with
  | error refusal => simp [asked] at relayed
  | ok request => exact Request.settled_of_relay (by simpa only [asked] using relayed)

/-- A wire that a turn puts into a queue answers the client whose turn it is, or is passed on to
someone in the area. -/
theorem appended_dispatch {s : Scene} {p : Wire.Packet} {receiver : Nat} {wire : String}
    (appended :
      s.hall.court.Appends (Handlers.builtin.dispatch s p).scene.hall.court receiver wire) :
    (∃ packet ∈ s.answers p, packet.toWire = wire) ∨
      ∃ area packet, s.Broadcasts p area packet ∧ packet.toWire = wire ∧
        receiver ∈ s.hall.court.recipients area := by
  cases relayed : s.relay? p with
  | none =>
    obtain ⟨new, waits, listed⟩ := s.hall.court.exists_waitingFor_postEach s.client.id
      ((s.answers p).map (·.toWire)) receiver
    rw [← Court.waitingFor_congr (mail_dispatch_of_no_relay relayed)] at waits
    exact .inl (List.mem_map.1 (listed (appended.mem waits)))
  | some relay =>
    obtain ⟨area, packet⟩ := relay
    obtain ⟨new, waits, sent⟩ := s.hall.court.exists_waitingFor_postAll
      (s.hall.court.recipients area) packet.toWire receiver
    have mail := mail_dispatch_of_relay relayed
    rw [Court.publishLossy] at mail
    rw [← Court.waitingFor_congr mail] at waits
    obtain ⟨same, listed, -⟩ := sent wire (appended.mem waits)
    exact .inr ⟨area, packet, relay?_eq_some_iff.1 relayed, same.symm, listed⟩

/-- The argument in which a passed on packet names its sender's character. -/
def signature? (command : String) : Option Nat :=
  if command = "MS" then some 8 else if command = "MC" then some 1 else none

theorem plain_of_signature {command : String} {i : Nat} (signature : signature? command = some i) :
    '#' ∉ command.toList := by
  unfold signature? at signature
  split at signature
  next speech => simp [speech]
  split at signature
  next track => simp [track]
  · cases signature

/-- What is passed on under a command that is signed bears the sender's own character. -/
theorem Broadcasts.signed {s : Scene} {p packet : Wire.Packet} {area i : Nat}
    (h : s.Broadcasts p area packet) (signature : signature? packet.command = some i) :
    s.client.area = some area ∧ 0 ≤ s.client.charId ∧
      packet.args[i]? = some (Text.decimal s.client.charId) := by
  cases h with
  | @speech m command here decoded plays own brief =>
    obtain rfl : 8 = i := Option.some.inj signature
    exact ⟨here, plays, own ▸ rfl⟩
  | chat command here signed named said written => cases signature
  | track command here asked noArea offered plays =>
    obtain rfl : 1 = i := Option.some.inj signature
    exact ⟨here, plays, rfl⟩

end Scene

namespace Gateway

theorem Reached.apart {config : Config} {g : Gateway} (h : Reached config g) :
    g.hall.court.Exclusive ∧ g.hall.court.PosesShow fun t => '#' ∉ t.toList := by
  induction h with
  | opened accepted =>
    obtain ⟨-, rfl⟩ := ofConfig_ok accepted
    exact ⟨fun _ _ _ _ _ inside => absurd inside List.not_mem_nil, nofun⟩
  | step before next ih =>
    obtain ⟨coherent, -⟩ := before.sound
    exact ⟨exclusive_step coherent ih.1 next, plain_step coherent ih.2 next⟩
  | received _ id f takes ih => exact ih

/-- What holds of a gateway's clients at every time: what is known of them agrees, nobody shares a
character with another client of the area, and no pose breaks an argument. -/
structure Orderly (g : Gateway) : Prop where
  coherent : g.Coherent
  exclusive : g.hall.court.Exclusive
  poses : g.hall.court.PosesShow fun t => '#' ∉ t.toList

theorem Reached.orderly {config : Config} {g : Gateway} (h : Reached config g) : g.Orderly :=
  ⟨h.sound.1, h.apart.1, h.apart.2⟩

theorem Orderly.playing {g : Gateway} (h : g.Orderly) {id : Nat} {session : Session}
    (live : g.sessions.find? id = some session) {area : Nat}
    (here : session.client.area = some area) (plays : 0 ≤ session.client.charId) :
    g.hall.court.Plays id area session.client.charId := by
  obtain ⟨rfl, own⟩ := h.coherent.own id session live
  have alone : (g.visit session).scene.Alone :=
    Scene.alone_of_exclusive h.coherent.consistent own h.exclusive
  refine ⟨own.character, plays, own.place.trans here, fun other apart beside holds => ?_⟩
  exact alone area here plays
    ((Scene.taken_iff h.coherent.consistent area _).2 ⟨other, apart, beside, holds⟩)

/-- What a turn passes on under a command that is signed comes from a client who plays the character
that the wire names, and reaches the client's area alone. -/
theorem signed_of_appended {g : Gateway} (h : g.Orderly) {id : Nat} {session : Session}
    (live : g.sessions.find? id = some session) {message : String} {p : Wire.Packet}
    (parsed : Wire.Packet.parse? message = some p) {receiver : Nat} {wire command : String}
    {i : Nat} (signature : Scene.signature? command = some i)
    (appended : g.hall.court.Appends (g.courtAfter session p) receiver wire)
    (opens : Wire.Opens wire command) :
    ∃ charId area, g.hall.court.Plays id area charId ∧
      (g.courtAfter session p).Plays id area charId ∧
      g.hall.court.presence.areaOf receiver = some area ∧
      Wire.argument? wire i = some (Text.decimal charId) := by
  have plain := Scene.plain_of_signature signature
  rw [courtAfter, h.coherent.builtin] at appended ⊢
  rcases Scene.appended_dispatch appended with
    ⟨packet, answered, rfl⟩ | ⟨area, packet, broadcasts, rfl, received⟩
  · -- The client's own answers are under other commands.
    have answer := Scene.answer_answers _ p packet answered
    have unsigned : ∀ c ∈ Request.answering, Scene.signature? c = none := by decide
    have same := answer.command_of_opens plain opens
    rw [← same, unsigned _ answer.known] at signature
    cases signature
  · have relayed := Scene.relay?_eq_some_iff.2 broadcasts
    have separated :=
      Scene.separated_relay (Wire.Packet.separated_of_parse parsed) h.poses relayed
    obtain rfl := separated.command_of_opens plain opens
    obtain ⟨here, plays, signed⟩ := broadcasts.signed signature
    have playing := h.playing live here plays
    obtain ⟨character, presence⟩ := Scene.settled_dispatch relayed
    have beside : g.hall.court.presence.areaOf receiver = some area :=
      (h.coherent.consistent.mem_clientsIn area receiver).1 (List.mem_filter.1 received).1
    exact ⟨_, area, playing, playing.transfer character presence, beside,
      separated.argument?_toWire signed⟩

end Gateway
end CourtroomGateway
