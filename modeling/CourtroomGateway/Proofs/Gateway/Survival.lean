import CourtroomGateway.Proofs.Court.Publishing
import CourtroomGateway.Proofs.Gateway.Deliveries
import CourtroomGateway.Proofs.Gateway.Handling

/-! Nothing that a client sends closes its session. An accepted configuration has an area to enter,
and an area that is found by its name is there, so no refusal is the server's own fault; rules do
not crash; and a message never waits for its recipients without end. What is left is flood control:
under a lavish allowance its counting overflows, and breaks the session off. -/

namespace CourtroomGateway

/-- The refusal says that the server is at fault, not the client. -/
def Refusal.IsInternal : Refusal → Prop
  | noAreas | noSuchArea _ => True
  | _ => False

theorem Refusal.isRecoverable_toFault {refusal : Refusal} (own : ¬ refusal.IsInternal) :
    refusal.toFault.isRecoverable := by
  cases refusal with
  | noAreas => exact absurd trivial own
  | noSuchArea index => exact absurd trivial own
  | _ => rfl

/-- A session goes on after a packet that was done, or refused with a recoverable fault. -/
theorem Outcome.flow_eq_goOn_iff {outcome : Outcome} :
    outcome.flow = .goOn ↔
      outcome = .done ∨ ∃ fault, outcome = .refused fault ∧ fault.isRecoverable := by
  cases outcome with
  | done => simp [flow]
  | crashed => simp [flow]
  | refused fault => cases fault.isRecoverable <;> simp [flow, *]

namespace Commands

theorem Joining.not_isInternal {s : Scene} {p : Wire.Packet} {refusal : Refusal}
    (areas : s.hall.config.areas ≠ []) (refused : Joining.decide s p = .error refusal) :
    ¬ refusal.IsInternal := by
  unfold Joining.decide at refused
  grind [Refusal.IsInternal]

theorem Character.not_isInternal {s : Scene} {p : Wire.Packet} {refusal : Refusal}
    (refused : Character.decide s p = .error refusal) : ¬ refusal.IsInternal := by
  unfold Character.decide at refused
  grind [Refusal.IsInternal]

theorem Chatting.not_isInternal {s : Scene} {p : Wire.Packet} {refusal : Refusal}
    (refused : Chatting.decide s p = .error refusal) : ¬ refusal.IsInternal := by
  unfold Chatting.decide at refused
  grind [Refusal.IsInternal]

theorem Music.not_isInternal {s : Scene} {p : Wire.Packet} {refusal : Refusal}
    (clean : s.hall.config.fault? = none) (refused : Music.decide s p = .error refusal) :
    ¬ refusal.IsInternal := by
  have there {name : String} {index : Nat} (found : s.hall.config.areaIndex? name = some index) :
      s.hall.config.areas[index]? ≠ none := by
    obtain ⟨a, here, -⟩ := (Config.areaIndex?_eq_some_iff clean).1 found
    simp [here]
  unfold Music.decide at refused
  grind [Refusal.IsInternal]

end Commands

namespace Scene

section Clean
variable {s : Scene} (clean : s.hall.config.fault? = none)
include clean

theorem not_isInternal {p : Wire.Packet} {refusal : Refusal}
    (refused : s.request p = .error refusal) : ¬ refusal.IsInternal := by
  have decided {α : Type} {decision : Except Refusal α} {wrap : α → Request}
      (refused : decision.map wrap = .error refusal) : decision = .error refusal := by
    cases decision with
    | error other => exact congrArg _ (Except.error.inj refused)
    | ok act => cases refused
  unfold request at refused
  split at refused
  · exact Commands.Music.not_isInternal clean (decided refused)
  split at refused
  · exact Commands.Chatting.not_isInternal (decided refused)
  split at refused
  · cases decided refused
  split at refused
  · exact Commands.Character.not_isInternal (decided refused)
  split at refused
  · exact Commands.Joining.not_isInternal (Config.areas_ne_nil clean) (decided refused)
  · cases refused
    exact not_false

/-- No packet closes a session. -/
theorem flow_dispatch (p : Wire.Packet) :
    (Handlers.builtin.dispatch s p).outcome.flow = .goOn := by
  rw [Handlers.dispatch_builtin]
  cases asked : s.request p with
  | ok request => rfl
  | error refusal =>
    have recoverable := Refusal.isRecoverable_toFault (not_isInternal clean asked)
    exact if_pos recoverable

end Clean

/-- The delivery that a message of the client waits for. -/
def delivery (s : Scene) (area : Nat) (m : Speech.Message) : Court.Delivery :=
  (Commands.Speaking.commitPose (Commands.Speaking.note s m) m).hall.court.publishReliable area
    (m.broadcast (Commands.Speaking.pairing s area m)).toWire Commands.speechTimeout
    (some (Commands.Speaking.commitPose (Commands.Speaking.note s m) m).client.id)

end Scene

namespace Gateway

/-- A message of a session is survived, unless its flood check overflows. -/
theorem survives_or_overflows {config : Config} {g : Gateway} {id : Nat} {v : Visit}
    (reached : Reached config (g.after id v)) (now : Nat) (message : String) :
    v.Overflows now message ∨
      ∃ u, v.Survives g.handlers now message u ∧ Reached config (g.after id u) := by
  have leads : Leads (fun _ _ => True) (g.after id v)
      (g.after id (v.handle g.handlers now message).2) :=
    g.leads_handle id now v message fun _ _ => trivial
  have survived (goesOn : (v.handle g.handlers now message).1 = .goOn) :
      ∃ u, v.Survives g.handlers now message u ∧ Reached config (g.after id u) :=
    ⟨_, Visit.handle_eq_goOn_iff.1 (Prod.ext goesOn rfl), reached.leads leads⟩
  cases parsed : Wire.Packet.parse? message with
  | none => exact .inr (survived (by rw [Visit.handle_of_unparsed parsed]))
  | some p =>
    cases verdict : (v.session.bucket.check now).1 with
    | overflow => exact .inl ⟨p, parsed, verdict⟩
    | drop => exact .inr (survived (by rw [Visit.handle_of_drop parsed verdict]))
    | pass =>
      have builtin : g.handlers = .builtin := reached.sound.1.builtin
      have clean : v.scene.hall.config.fault? = none := by
        obtain ⟨same, clean⟩ := reached.config_eq
        exact same ▸ clean
      refine .inr (survived ?_)
      rw [Visit.handle_of_pass parsed verdict, builtin]
      exact Scene.flow_dispatch clean p

/-- The messages before the first flood check that overflows are all carried out, and with it the
session breaks off. -/
theorem carried_heard {config : Config} {g : Gateway} {id : Nat} {v : Visit}
    (reached : Reached config (g.after id v)) (messages : List (Nat × String)) :
    ∃ w, v.Carried g.handlers (v.session.bucket.heard messages) w ∧
      v.handleAll g.handlers messages =
        (if v.session.bucket.unheard messages = [] then .goOn else .broken, w) := by
  induction messages generalizing v with
  | nil => exact ⟨v, .done v, rfl⟩
  | cons timed messages ih =>
    obtain ⟨now, message⟩ := timed
    rcases survives_or_overflows reached now message with overflows | ⟨u, survives, next⟩
    · refine ⟨v, ?_, ?_⟩
      · rw [overflows.heard]
        exact .done v
      · rw [Visit.handleAll, Visit.handle_of_overflow overflows, overflows.unheard,
          if_neg (List.cons_ne_nil _ _)]
    · obtain ⟨w, carried, handled⟩ := ih next
      refine ⟨w, ?_, ?_⟩
      · rw [survives.heard]
        exact .next survives carried
      · rw [Visit.handleAll, Visit.handle_eq_goOn_iff.2 survives, survives.unheard]
        exact handled

theorem reached_framed {config : Config} {g : Gateway} (reached : Reached config g) {id : Nat}
    {session : Session} (live : g.sessions.find? id = some session) (chunk : List UInt8) :
    Reached config (g.after id ((g.visit session).framed chunk)) := by
  have framed : Leads (fun _ _ => True) _ _ := g.leads_framed id (g.visit session) chunk
  rw [after_self live] at framed
  exact reached.leads framed

/-- In a state that can be reached, the messages of a chunk are carried out up to the first flood
check that overflows. -/
theorem carried_send {config : Config} {g : Gateway} (reached : Reached config g) {id : Nat}
    {session : Session} (live : g.sessions.find? id = some session) (readings : Nat → Nat)
    (chunk : List UInt8) :
    let messages := Visit.timed readings (session.framer.feed chunk).1.messages
    ∃ w, ((g.visit session).framed chunk).Carried .builtin (session.bucket.heard messages) w ∧
      g.send id readings chunk =
        (if session.bucket.unheard messages = [] then .goOn else .broken, g.after id w) := by
  intro messages
  obtain ⟨w, carried, handled⟩ := carried_heard (reached_framed reached live chunk) messages
  rw [Visit.bucket_framed, reached.sound.1.builtin] at carried
  rw [Visit.bucket_framed] at handled
  refine ⟨w, carried, ?_⟩
  rw [send_eq live, Visit.receive_eq, handled]

theorem send_ne_close {config : Config} {g : Gateway} (reached : Reached config g) {id : Nat}
    {session : Session} (live : g.sessions.find? id = some session) (readings : Nat → Nat)
    (chunk : List UInt8) (why : Closing) : (g.send id readings chunk).1 ≠ .close why := by
  obtain ⟨w, -, sent⟩ := carried_send reached live readings chunk
  rw [sent]
  dsimp only
  split <;> nofun

/-- In every state that can be reached, no chunk closes the session, and it goes on exactly if no
flood check of the chunk's packets overflows. Every packet of its client is done, or refused with a
fault that a session survives, so that none is answered with an internal fault; and what the client
says is delivered within its time limit. -/
theorem send_goOn_iff {config : Config} {g : Gateway} (reached : Reached config g) {id : Nat}
    {session : Session} (live : g.sessions.find? id = some session) :
    (∀ readings chunk, (∀ why, (g.send id readings chunk).1 ≠ .close why) ∧
      ((g.send id readings chunk).1 = .goOn ↔
        .overflow ∉ session.bucket.checks (Flood.Bucket.instants
          (Visit.timed readings (session.framer.feed chunk).1.messages)))) ∧
      (∀ p, (g.handlers.dispatch (g.visit session).scene p).outcome = .done ∨
        ∃ fault, (g.handlers.dispatch (g.visit session).scene p).outcome = .refused fault ∧
          fault.isRecoverable) ∧
      (∀ p detail, (g.handlers.dispatch (g.visit session).scene p).outcome ≠
        .refused (.internal detail)) ∧
      ∀ area m, ¬ ((g.visit session).scene.delivery area m).stuck ∧
        ((g.visit session).scene.delivery area m).waited ≤ Commands.speechTimeout := by
  obtain ⟨same, clean⟩ := reached.config_eq
  have clean : (g.visit session).scene.hall.config.fault? = none := same ▸ clean
  have survives (p : Wire.Packet) :
      (g.handlers.dispatch (g.visit session).scene p).outcome = .done ∨
        ∃ fault, (g.handlers.dispatch (g.visit session).scene p).outcome = .refused fault ∧
          fault.isRecoverable := by
    rw [reached.sound.1.builtin]
    exact Outcome.flow_eq_goOn_iff.1 (Scene.flow_dispatch clean p)
  refine ⟨fun readings chunk => ⟨send_ne_close reached live readings chunk, ?_⟩, survives,
    fun p detail refused => ?_, fun area m => ?_⟩
  · obtain ⟨w, -, sent⟩ := carried_send reached live readings chunk
    rw [← Flood.Bucket.unheard_eq_nil_iff, sent]
    dsimp only
    split <;> simp [*]
  · rcases survives p with done | ⟨fault, refused', recoverable⟩
    · cases done.symm.trans refused
    · cases refused'.symm.trans refused
      exact absurd recoverable Bool.false_ne_true
  · exact Court.not_stuck_publishReliable (by decide) _ _ _ _

theorem reached_step {config : Config} {g : Gateway} (reached : Reached config g) (event : Event) :
    Reached config (g.step event) := by
  have leads : Leads (fun _ _ => True) g (g.step event) := g.leads_step event fun _ _ => trivial
  exact reached.leads leads

/-- What holds with the empty record, and in reachable states with each part after its event, holds
after every run with the whole record. -/
theorem reached_induction {config : Config} {α : Type} {part : Gateway → Event → List α}
    (holds : Gateway → List α → Prop) {g : Gateway}
    (opened : Gateway.ofConfig .builtin config = .ok g) (start : holds g [])
    (step : ∀ g written event, Reached config g → holds g written →
      holds (g.step event) (written ++ part g event)) (events : List Event) :
    holds (g.run events) (g.record part events) := by
  refine (record_induction (fun g written => Reached config g ∧ holds g written)
    ⟨.opened opened, start⟩ (fun g written event before => ?_) events).2
  obtain ⟨reached, held⟩ := before
  exact ⟨reached_step reached event, step g written event reached held⟩

/-- Commands that do not exist or come too early, names that nobody has, numbers out of range, and
bytes that are no text. -/
def heckling : List UInt8 :=
  Text.Utf8.encode "MS#%MC#Trial#0#%NO#%CC#0#9#%CC#0#x#%RD#%MC#Nowhere#0#%CT##%HI#%" ++
    [0xFF, 0x23, 0xC0, 0x25, 0x23, 0x25]

theorem send_goOn_iff_heckled :
    Reached courthouse (doors.run [.arrive .tcp 0]) ∧
      ∃ session, (doors.run [.arrive .tcp 0]).sessions.find? 0 = some session ∧
        .overflow ∉ session.bucket.checks (Flood.Bucket.instants
          (Visit.timed (fun _ => 0) (session.framer.feed heckling).1.messages)) ∧
        ((doors.run [.arrive .tcp 0]).send 0 (fun _ => 0) heckling).1 = .goOn ∧
        ∃ fault, (doors.handlers.dispatch ((doors.run [.arrive .tcp 0]).visit session).scene
          ⟨"MC", ["Trial", "0"]⟩).outcome = .refused fault ∧ fault.isRecoverable := by
  have reached : Reached courthouse (doors.run [.arrive .tcp 0]) :=
    reached_run ofConfig_courthouse _
  have evaluated : (((doors.run [.arrive .tcp 0]).sessions.find? 0).map fun session =>
      ((doors.handlers.dispatch ((doors.run [.arrive .tcp 0]).visit session).scene
          ⟨"MC", ["Trial", "0"]⟩).outcome,
        session.bucket.checks (Flood.Bucket.instants
          (Visit.timed (fun _ => 0) (session.framer.feed heckling).1.messages)))) =
      some (.refused (.notAllowed "MC before joining an area"), List.replicate 10 .pass) := by
    decide +kernel
  obtain ⟨session, live, both⟩ := Option.map_eq_some_iff.1 evaluated
  obtain ⟨refused, verdicts⟩ := Prod.mk.inj both
  have spared : .overflow ∉ session.bucket.checks (Flood.Bucket.instants
      (Visit.timed (fun _ => 0) (session.framer.feed heckling).1.messages)) := by
    rw [verdicts]
    decide
  obtain ⟨flow, survives, -, -⟩ := send_goOn_iff reached live
  refine ⟨reached, session, live, spared, (flow _ heckling).2.2 spared, ?_⟩
  rcases survives ⟨"MC", ["Trial", "0"]⟩ with done | survived
  · cases done.symm.trans refused
  · exact survived

/-- A configuration whose allowance of packets is more than flood control can count. -/
def lavish : Config :=
  { courthouse with flood := { rate := 2147483648, burst := 2147483648 } }

/-- One second after its client arrived a session does not survive a packet. -/
theorem exists_send_broken :
    Gateway.ofConfig .builtin lavish = .ok (unvisited lavish) ∧
      Reached lavish ((unvisited lavish).run [.arrive .tcp 0]) ∧
      ((unvisited lavish).run [.arrive .tcp 0]).sessions.contains 0 ∧
      (((unvisited lavish).run [.arrive .tcp 0]).send 0 (fun _ => 1000 * Flood.Bucket.millisecond)
        (Text.Utf8.encode "CH#%")).1 = .broken := by
  have opened : Gateway.ofConfig .builtin lavish = .ok (unvisited lavish) :=
    ofConfig_of_clean (by decide)
  exact ⟨opened, reached_run opened _, by decide +kernel, by decide +kernel⟩

end Gateway
end CourtroomGateway
