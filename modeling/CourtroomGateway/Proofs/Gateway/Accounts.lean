import CourtroomGateway.Proofs.Commands.Tallies
import CourtroomGateway.Proofs.Gateway.Survival
import CourtroomGateway.Proofs.Metrics.Totals

/-! The accounts of a run. Every packet that arrives is dropped, or has no handler, or is handled
and timed, and is counted for that once. Of the packets with speech every one is read or not, and no
command is refused more often than it is handled. The books are kept in words, so what they show is
right up to whole rounds of a word, and exactly as long as the number of packets fits into one. -/

namespace CourtroomGateway

namespace Metrics

/-- How often a command was timed, as far as a word can tell. -/
def timings (m : Metrics) (command : String) : UInt64 :=
  (m.dispatchDuration.get [⟨"cmd", command⟩]).count

/-- Every packet is in one of the three books. -/
def Packets (m : Metrics) (received : Nat) : Prop :=
  ∃ dropped unknown handled, dropped + unknown + handled = received ∧
    Shows (m.floodDrops.get []).toNat dropped ∧
    Shows (m.unknownCommands.get []).toNat unknown ∧
    Shows m.dispatchDuration.total handled

/-- Every speech that was handled was read or not. -/
def Speeches (m : Metrics) (received : Nat) : Prop :=
  ∃ read unread, read + unread ≤ received ∧
    Shows (m.decoded.total []) read ∧ Shows (m.decodeFailures.total []) unread ∧
    Shows (m.timings "MS").toNat (read + unread)

/-- The command was refused at most as often as it was handled. -/
def Refusals (m : Metrics) (command : String) (received : Nat) : Prop :=
  ∃ refused handled, refused ≤ handled ∧ handled ≤ received ∧
    Shows (m.handlerErrors.total [⟨"cmd", command⟩]) refused ∧
    Shows (m.timings command).toNat handled

/-- What the metrics show of a number of packets is right up to whole rounds of a word. -/
structure Balanced (m : Metrics) (received : Nat) : Prop where
  packets : m.Packets received
  speeches : m.Speeches received
  refusals : ∀ command, m.Refusals command received

/-- What the metrics show of a number of packets is right. -/
structure Exact (m : Metrics) (received : Nat) : Prop where
  packets : (m.floodDrops.get []).toNat + (m.unknownCommands.get []).toNat +
    m.dispatchDuration.total = received
  speeches : (m.timings "MS").toNat = m.decoded.total [] + m.decodeFailures.total []
  refusals : ∀ command,
    m.handlerErrors.total [⟨"cmd", command⟩] ≤ (m.timings command).toNat

theorem balanced_empty : Balanced {} 0 where
  packets := ⟨0, 0, 0, rfl, .refl 0, .refl 0, .refl 0⟩
  speeches := ⟨0, 0, Nat.le_refl 0, .refl 0, .refl 0, .refl 0⟩
  refusals _ := ⟨0, 0, Nat.le_refl 0, Nat.le_refl 0, .refl 0, .refl 0⟩

/-- Books that fit into a word need no rounds. -/
theorem Balanced.exact {m : Metrics} {n : Nat} (h : m.Balanced n) (fits : n < 2 ^ 64) :
    m.Exact n where
  packets := by
    obtain ⟨dropped, unknown, handled, whole, drops, unknowns, timed⟩ := h.packets
    rw [drops.eq_of_lt (by omega), unknowns.eq_of_lt (by omega), timed.eq_of_lt (by omega), whole]
  speeches := by
    obtain ⟨read, unread, within, reads, failures, timed⟩ := h.speeches
    rw [reads.eq_of_lt (by omega), failures.eq_of_lt (by omega), timed.eq_of_lt (by omega)]
  refusals command := by
    obtain ⟨refused, handled, fewer, within, errors, timed⟩ := h.refusals command
    rw [errors.eq_of_lt (by omega), timed.eq_of_lt (by omega)]
    exact fewer

section Books
variable {m : Metrics} {n : Nat}

theorem Speeches.more (h : m.Speeches n) : m.Speeches (n + 1) := by
  obtain ⟨read, unread, within, books⟩ := h
  exact ⟨read, unread, by omega, books⟩

theorem Refusals.more {command : String} (h : m.Refusals command n) :
    m.Refusals command (n + 1) := by
  obtain ⟨refused, handled, fewer, within, books⟩ := h
  exact ⟨refused, handled, fewer, by omega, books⟩

theorem Balanced.drop (h : m.Balanced n) :
    { m with floodDrops := m.floodDrops.inc [] }.Balanced (n + 1) where
  packets := by
    obtain ⟨dropped, unknown, handled, whole, drops, unknowns, timed⟩ := h.packets
    refine ⟨dropped + 1, unknown, handled, by omega, ?_, unknowns, timed⟩
    rw [Counter.inc, Counter.get_add, if_pos rfl]
    exact drops.succ
  speeches := h.speeches.more
  refusals command := (h.refusals command).more

theorem Balanced.unknown (h : m.Balanced n) :
    { m with unknownCommands := m.unknownCommands.inc [] }.Balanced (n + 1) where
  packets := by
    obtain ⟨dropped, unknown, handled, whole, drops, unknowns, timed⟩ := h.packets
    refine ⟨dropped, unknown + 1, handled, by omega, drops, ?_, timed⟩
    rw [Counter.inc, Counter.get_add, if_pos rfl]
    exact unknowns.succ
  speeches := h.speeches.more
  refusals command := (h.refusals command).more

/-- The metrics after a command was timed. -/
def time (m : Metrics) (command : String) (nanoseconds : Nat) : Metrics :=
  { m with dispatchDuration := m.dispatchDuration.observe [⟨"cmd", command⟩] nanoseconds }

theorem timings_time (m : Metrics) (command other : String) (nanoseconds : Nat) :
    (m.time command nanoseconds).timings other =
      if other = command then m.timings other + 1 else m.timings other := by
  have key : LabelSet.of [⟨"cmd", other⟩] = LabelSet.of [⟨"cmd", command⟩] ↔
      other = command := by
    simp [LabelSet.of, LabelSet.place]
  simp only [timings, time, Histogram.get_observe, key]
  split
  next same =>
    subst same
    rfl
  next => rfl

theorem Packets.time (h : m.Packets n) (command : String) (nanoseconds : Nat) :
    (m.time command nanoseconds).Packets (n + 1) := by
  obtain ⟨dropped, unknown, handled, whole, drops, unknowns, timed⟩ := h
  exact ⟨dropped, unknown, handled + 1, by omega, drops, unknowns,
    Histogram.shows_total_observe timed _ nanoseconds⟩

theorem Speeches.time (h : m.Speeches n) {command : String} (other : command ≠ "MS")
    (nanoseconds : Nat) : (m.time command nanoseconds).Speeches n := by
  obtain ⟨read, unread, within, reads, failures, timed⟩ := h
  refine ⟨read, unread, within, reads, failures, ?_⟩
  rwa [timings_time, if_neg other.symm]

theorem Refusals.time {command : String} (h : m.Refusals command n) (timed : String)
    (nanoseconds : Nat) : (m.time timed nanoseconds).Refusals command (n + 1) := by
  obtain ⟨refused, handled, fewer, within, errors, times⟩ := h
  by_cases same : command = timed
  · refine ⟨refused, handled + 1, by omega, by omega, errors, ?_⟩
    rw [timings_time, if_pos same]
    exact times.succ
  · refine ⟨refused, handled, fewer, by omega, errors, ?_⟩
    rwa [timings_time, if_neg same]

/-- A command that is refused is also timed, so that it stays handled at least as often. -/
theorem Refusals.refuse {command : String} (h : m.Refusals command n) (refused : String)
    (nanoseconds : Nat) (code : Code) :
    { m.time refused nanoseconds with
      handlerErrors :=
        m.handlerErrors.inc [⟨"cmd", refused⟩, ⟨"code", code.name⟩] }.Refusals command (n + 1) := by
  have own : ([⟨"cmd", command⟩] : List Label) ⊆ [⟨"cmd", refused⟩, ⟨"code", code.name⟩] ↔
      command = refused := by
    simp
  obtain ⟨refusals, handled, fewer, within, errors, times⟩ := h
  have counted := Counter.shows_total_inc errors [⟨"cmd", refused⟩, ⟨"code", code.name⟩]
  simp only [own] at counted
  by_cases same : command = refused
  · rw [if_pos same] at counted
    refine ⟨refusals + 1, handled + 1, by omega, by omega, counted, ?_⟩
    change Shows ((m.time refused nanoseconds).timings command).toNat _
    rw [timings_time, if_pos same]
    exact times.succ
  · rw [if_neg same] at counted
    refine ⟨refusals, handled, fewer, by omega, counted, ?_⟩
    change Shows ((m.time refused nanoseconds).timings command).toNat _
    rwa [timings_time, if_neg same]

theorem Speeches.read (h : m.Speeches n) (labels : List Label) (nanoseconds : Nat) :
    (Metrics.time { m with decoded := m.decoded.inc labels } "MS" nanoseconds).Speeches
      (n + 1) := by
  obtain ⟨read, unread, within, reads, failures, timed⟩ := h
  have counted := Counter.shows_total_inc reads labels
  rw [if_pos (List.nil_subset _)] at counted
  refine ⟨read + 1, unread, by omega, counted, failures, ?_⟩
  rw [timings_time, if_pos rfl, Nat.add_right_comm]
  exact timed.succ

theorem Speeches.unread (h : m.Speeches n) (labels : List Label) (nanoseconds : Nat) :
    (Metrics.time { m with decodeFailures := m.decodeFailures.inc labels } "MS"
      nanoseconds).Speeches (n + 1) := by
  obtain ⟨read, unread, within, reads, failures, timed⟩ := h
  have counted := Counter.shows_total_inc failures labels
  rw [if_pos (List.nil_subset _)] at counted
  refine ⟨read, unread + 1, by omega, reads, counted, ?_⟩
  rw [timings_time, if_pos rfl, ← Nat.add_assoc]
  exact timed.succ

/-- A command other than speech, done. -/
theorem Balanced.time (h : m.Balanced n) {command : String} (other : command ≠ "MS")
    (nanoseconds : Nat) : (m.time command nanoseconds).Balanced (n + 1) where
  packets := h.packets.time command nanoseconds
  speeches := (h.speeches.time other nanoseconds).more
  refusals _ := (h.refusals _).time command nanoseconds

theorem Balanced.refuse (h : m.Balanced n) {command : String} (other : command ≠ "MS")
    (nanoseconds : Nat) (code : Code) :
    { m.time command nanoseconds with
      handlerErrors :=
        m.handlerErrors.inc [⟨"cmd", command⟩, ⟨"code", code.name⟩] }.Balanced (n + 1) where
  packets := h.packets.time command nanoseconds
  speeches := (h.speeches.time other nanoseconds).more
  refusals _ := (h.refusals _).refuse command nanoseconds code

theorem Balanced.read (h : m.Balanced n) (labels : List Label) (nanoseconds : Nat) :
    (Metrics.time { m with decoded := m.decoded.inc labels } "MS" nanoseconds).Balanced
      (n + 1) where
  packets := h.packets.time "MS" nanoseconds
  speeches := h.speeches.read labels nanoseconds
  refusals _ := (h.refusals _).time "MS" nanoseconds

theorem Balanced.unread (h : m.Balanced n) (labels : List Label) (nanoseconds : Nat) :
    (Metrics.time { m with decodeFailures := m.decodeFailures.inc labels } "MS"
      nanoseconds).Balanced (n + 1) where
  packets := h.packets.time "MS" nanoseconds
  speeches := h.speeches.unread labels nanoseconds
  refusals _ := (h.refusals _).time "MS" nanoseconds

/-- A request that was granted is timed, and speech is counted besides. -/
theorem Balanced.tally (h : m.Balanced n) {s : Scene} {p : Wire.Packet} {request : Request}
    (decided : request.Decided s p) (nanoseconds : Nat) :
    ((request.tally m).time p.command nanoseconds).Balanced (n + 1) := by
  cases request with
  | joining act =>
    obtain ⟨joining, -⟩ := decided
    exact h.time (fun same => absurd (same ▸ joining) (by decide)) nanoseconds
  | character act => exact h.time (decided.1.trans_ne (by decide)) nanoseconds
  | chatting act => exact h.time (decided.1.trans_ne (by decide)) nanoseconds
  | music act => exact h.time (decided.1.trans_ne (by decide)) nanoseconds
  | speaking act =>
    rw [decided.1]
    cases act with
    | unread error => exact h.unread _ nanoseconds
    | silent message => exact h.read _ nanoseconds
    | spoken area message => exact h.read _ nanoseconds

end Books
end Metrics

namespace Scene

/-- Speech is never refused. -/
theorem command_ne_of_refused {s : Scene} {p : Wire.Packet} {refusal : Refusal}
    (refused : s.request p = .error refusal) : p.command ≠ "MS" := by
  intro speech
  simp only [request, speech] at refused
  cases refused

theorem balanced_dispatch {s : Scene} {n : Nat} (h : s.hall.metrics.Balanced n)
    (p : Wire.Packet) :
    (Handlers.builtin.dispatch s p).scene.hall.metrics.Balanced (n + 1) := by
  rw [Handlers.dispatch_builtin]
  cases asked : s.request p with
  | error refusal =>
    rw [Handlers.answer, Handlers.refuse]
    split
    · exact h.refuse (command_ne_of_refused asked) _ refusal.toFault.code
    · exact h.unknown
  | ok request =>
    have counted := h.tally (decided_of_request asked)
      (((request.perform s).hall.clock - s.hall.clock) * 1000000)
    rw [← request.metrics_perform] at counted
    exact counted

end Scene

namespace Flood.Bucket

/-- The packets among messages. -/
def packets (messages : List (Nat × String)) : List Wire.Packet :=
  (messages.map Prod.snd).filterMap Wire.Packet.parse?

theorem packets_timed (readings : Nat → Nat) (messages : List String) :
    packets (Visit.timed readings messages) = messages.filterMap Wire.Packet.parse? := by
  have texts : (Visit.timed readings messages).map Prod.snd = messages :=
    List.ext_getElem (by simp [Visit.timed]) fun i _ _ => by simp [Visit.timed]
  rw [packets, texts]

end Flood.Bucket

namespace Visit.Carried
variable {v w : Visit} {messages : List (Nat × String)} (carried : v.Carried .builtin messages w)
include carried

theorem balanced {n : Nat} (h : v.hall.metrics.Balanced n) :
    w.hall.metrics.Balanced (n + (Flood.Bucket.packets messages).length) := by
  induction carried generalizing n with
  | done v => exact h
  | next first rest ih =>
    cases first with
    | skipped unparsed =>
      rw [Flood.Bucket.packets, List.map_cons, List.filterMap_cons_none unparsed]
      exact ih h
    | dropped parsed exceeds =>
      rw [Flood.Bucket.packets, List.map_cons, List.filterMap_cons_some parsed, List.length_cons,
        ← Nat.add_assoc, Nat.add_right_comm]
      exact ih h.drop
    | turned parsed allowed survived =>
      rw [Flood.Bucket.packets, List.map_cons, List.filterMap_cons_some parsed, List.length_cons,
        ← Nat.add_assoc, Nat.add_right_comm]
      exact ih (Scene.balanced_dispatch h _)

theorem overflows :
    w.hall.metrics.framingOverflows = v.hall.metrics.framingOverflows :=
  carried.keeps (fun w => w.hall.metrics.framingOverflows = v.hall.metrics.framingOverflows)
    (fun _ _ same => same)
    (fun _ u p same => (u.scene.outlasts_dispatch p).framingOverflows.trans same) rfl

end Visit.Carried

namespace Gateway

/-- The packets that an event brings: the framed messages of a chunk that can be read as one. -/
def packetsOf (g : Gateway) : Event → List Wire.Packet
  | .send id _ chunk =>
    match g.sessions.find? id with
    | none => []
    | some session => (session.framer.feed chunk).1.messages.filterMap Wire.Packet.parse?
  | _ => []

/-- The packets of an event that come before the first flood check that overflows. -/
def heardOf (g : Gateway) : Event → List Wire.Packet
  | .send id readings chunk =>
    match g.sessions.find? id with
    | none => []
    | some session =>
      Flood.Bucket.packets (session.bucket.heard
        (Visit.timed readings (session.framer.feed chunk).1.messages))
  | _ => []

/-- The packets of an event from the first on whose flood check overflows. -/
def unheardOf (g : Gateway) : Event → List Wire.Packet
  | .send id readings chunk =>
    match g.sessions.find? id with
    | none => []
    | some session =>
      Flood.Bucket.packets (session.bucket.unheard
        (Visit.timed readings (session.framer.feed chunk).1.messages))
  | _ => []

theorem heardOf_append_unheardOf (g : Gateway) (event : Event) :
    g.heardOf event ++ g.unheardOf event = g.packetsOf event := by
  cases event with
  | send id readings chunk =>
    rw [heardOf, unheardOf, packetsOf]
    cases g.sessions.find? id with
    | none => rfl
    | some session =>
      dsimp only
      rw [← Flood.Bucket.packets_timed readings]
      simp only [Flood.Bucket.packets, ← List.filterMap_append, ← List.map_append,
        Flood.Bucket.heard_append_unheard]
  | _ => rfl

theorem length_record_packetsOf (g : Gateway) (events : List Event) :
    (g.record packetsOf events).length =
      (g.record heardOf events).length + (g.record unheardOf events).length := by
  induction events generalizing g with
  | nil => rfl
  | cons event events ih =>
    have later := ih (g.step event)
    have here := congrArg List.length (g.heardOf_append_unheardOf event)
    simp only [record, List.length_append] at here ⊢
    omega

/-- The transport of the session whose buffer overflows at an event. -/
def overflowsOf (g : Gateway) : Event → List Transport
  | .send id _ chunk =>
    match g.sessions.find? id with
    | none => []
    | some session =>
      if (session.framer.feed chunk).1.overflow.isSome then [session.client.transport] else []
  | _ => []

theorem balanced_step {config : Config} {g : Gateway} (reached : Reached config g) {n : Nat}
    (h : g.hall.metrics.Balanced n) (event : Event) :
    (g.step event).hall.metrics.Balanced (n + (g.heardOf event).length) := by
  cases event with
  | arrive transport now =>
    rw [step, arrive]
    cases opened : g.hall.openSession transport now with
    | error refusal => exact h
    | ok v =>
      have counted := Hall.metrics_openSession opened
      simp only [counted]
      exact ⟨h.packets, h.speeches, h.refusals⟩
  | send id readings chunk =>
    rw [step, heardOf]
    cases live : g.sessions.find? id with
    | none =>
      simp only [send, live]
      exact h
    | some session =>
      obtain ⟨w, carried, sent⟩ := carried_send reached live readings chunk
      have framed : ((g.visit session).framed chunk).hall.metrics.Balanced n := by
        unfold Visit.framed
        split
        · exact ⟨h.packets, h.speeches, h.refusals⟩
        · exact h
      rw [sent]
      exact carried.balanced framed
  | collect id => exact h
  | depart id =>
    rw [step, depart]
    cases g.sessions.find? id with
    | none => exact h
    | some session => exact ⟨h.packets, h.speeches, h.refusals⟩
  | wait milliseconds => exact h

theorem overflows_framed (v : Visit) (chunk : List UInt8) (transport : Transport) :
    (v.framed chunk).hall.metrics.framingOverflows.get [transport.label] =
      v.hall.metrics.framingOverflows.get [transport.label] +
        UInt64.ofNat ((if (v.session.framer.feed chunk).1.overflow.isSome then
          [v.session.client.transport] else []).count transport) := by
  unfold Visit.framed
  split
  · simp only [Visit.recordOverflow, Metrics.Counter.inc, Metrics.Counter.get_add,
      Transport.key_label_iff, List.count_singleton, beq_iff_eq, eq_comm (a := transport)]
    split
    next same =>
      subst same
      rfl
    next => simp
  · simp

theorem overflows_step {config : Config} {g : Gateway} (reached : Reached config g)
    (transport : Transport) (event : Event) :
    (g.step event).hall.metrics.framingOverflows.get [transport.label] =
      g.hall.metrics.framingOverflows.get [transport.label] +
        UInt64.ofNat ((g.overflowsOf event).count transport) := by
  cases event with
  | arrive opening now =>
    rw [step, arrive]
    cases opened : g.hall.openSession opening now with
    | error refusal => simp [overflowsOf]
    | ok v =>
      have counted := Hall.metrics_openSession opened
      simp [counted, overflowsOf, Hall.recordOpening]
  | send id readings chunk =>
    rw [step, overflowsOf]
    cases live : g.sessions.find? id with
    | none => simp [send, live]
    | some session =>
      obtain ⟨w, carried, sent⟩ := carried_send reached live readings chunk
      rw [sent]
      change w.hall.metrics.framingOverflows.get _ = _
      rw [carried.overflows]
      exact overflows_framed (g.visit session) chunk transport
  | collect id => simp [overflowsOf, step, collect]
  | depart id =>
    rw [step, depart]
    cases g.sessions.find? id with
    | none => simp [overflowsOf]
    | some session => simp [overflowsOf, Hall.endSession, Hall.recordClosing]
  | wait milliseconds => simp [overflowsOf, step, wait]

theorem balanced_run {config : Config} {g : Gateway}
    (opened : Gateway.ofConfig .builtin config = .ok g) (events : List Event) :
    (g.run events).hall.metrics.Balanced (g.record heardOf events).length := by
  have start : g.hall.metrics.Balanced 0 := by
    obtain ⟨-, rfl⟩ := ofConfig_ok opened
    exact Metrics.balanced_empty
  refine reached_induction (fun g packets => g.hall.metrics.Balanced packets.length) opened start
    (fun g packets event reached balanced => ?_) events
  rw [List.length_append]
  exact balanced_step reached balanced event

theorem overflows_run {config : Config} {g : Gateway}
    (opened : Gateway.ofConfig .builtin config = .ok g) (events : List Event)
    (transport : Transport) :
    (g.run events).hall.metrics.framingOverflows.get [transport.label] =
      UInt64.ofNat ((g.record overflowsOf events).count transport) := by
  have start : g.hall.metrics.framingOverflows.get [transport.label] = 0 := by
    obtain ⟨-, rfl⟩ := ofConfig_ok opened
    rfl
  refine reached_induction
    (fun g transports => g.hall.metrics.framingOverflows.get [transport.label] =
      UInt64.ofNat (transports.count transport)) opened start
    (fun g transports event reached counted => ?_) events
  rw [overflows_step reached, counted, List.count_append, UInt64.ofNat_add]

/-- In every run under an accepted configuration, the metrics account for every packet but those
that a flood check which overflows takes along. It is dropped, or has no handler, or is timed under
its command; what is timed as speech is counted as read or by the reason why it is not; and a
command is refused at most as often as it is timed. Up to whole rounds of a word this holds of any
number of packets, and exactly of as many as fit into one. So the books are right about all packets
exactly if no flood check has overflowed. The overflows of buffers are counted under the transports
of the sessions they happened in. -/
theorem packets_accounted {config : Config} {g : Gateway}
    (opened : Gateway.ofConfig .builtin config = .ok g) (events : List Event) :
    (g.run events).hall.metrics.Balanced (g.record heardOf events).length ∧
      (g.record packetsOf events).length =
        (g.record heardOf events).length + (g.record unheardOf events).length ∧
      ((g.record packetsOf events).length < 2 ^ 64 →
        (g.run events).hall.metrics.Exact (g.record heardOf events).length ∧
          ((g.run events).hall.metrics.Exact (g.record packetsOf events).length ↔
            g.record unheardOf events = [])) ∧
      ∀ transport : Transport,
        (g.run events).hall.metrics.framingOverflows.get [transport.label] =
          UInt64.ofNat ((g.record overflowsOf events).count transport) := by
  have balanced := balanced_run opened events
  have whole := g.length_record_packetsOf events
  refine ⟨balanced, whole, fun fits => ?_, overflows_run opened events⟩
  have exact_heard := balanced.exact (by omega)
  refine ⟨exact_heard, fun exact_all => ?_, fun none => ?_⟩
  · have same := exact_heard.packets.symm.trans exact_all.packets
    exact List.length_eq_zero_iff.1 (by omega)
  · rw [whole, none]
    exact exact_heard

/-- A configuration that allows for few packets and short ones. -/
def strict : Config :=
  { courthouse with server := { maxBuffer := 256 }, flood := { rate := 1, burst := 6 } }

/-- One client sends a packet too many: among them one is unknown, one no packet, one no speech, and
one refused. Another sends more than can be a packet. -/
def bustle : List Event :=
  [.arrive .tcp 0, .arrive .ws 0,
    feeds 0 "CC#0#0#%RD#%NO#%#%MS#x#%CT##%MS#1#-#Nick#point#Hi.#wit#0#0#0#0#0#0#0#0#0#%CH#%",
    feeds 1 "CT#Miles#Hm.#%", .send 1 (fun _ => 0) (List.replicate 300 0x41)]

theorem packets_accounted_bustle :
    Gateway.ofConfig .builtin strict = .ok (unvisited strict) ∧
      ((unvisited strict).record packetsOf bustle).length = 8 ∧
      (unvisited strict).record unheardOf bustle = [] ∧
      let m := ((unvisited strict).run bustle).hall.metrics
      m.Exact 8 ∧ m.framingOverflows.get [Transport.ws.label] = 1 ∧
        m.floodDrops.get [] = 1 ∧ m.timings "MS" = 2 ∧ m.decoded.total [] = 1 := by
  have opened : Gateway.ofConfig .builtin strict = .ok (unvisited strict) :=
    ofConfig_of_clean (by decide)
  have received : ((unvisited strict).record packetsOf bustle).length = 8 := by decide +kernel
  have spared : (unvisited strict).record unheardOf bustle = [] := by decide +kernel
  have overflows : ((unvisited strict).record overflowsOf bustle).count .ws = 1 := by
    decide +kernel
  obtain ⟨-, -, settles, overflowed⟩ := packets_accounted opened bustle
  rw [received] at settles
  have shown := overflowed .ws
  rw [overflows] at shown
  exact ⟨opened, received, spared, (settles (by decide)).2.2 spared, shown, by decide +kernel⟩

/-- A packet that came a second after its client arrived. -/
def hurry : List Event :=
  [.arrive .tcp 0, .send 0 (fun _ => 1000 * Flood.Bucket.millisecond) (Text.Utf8.encode "CH#%")]

/-- Under a lavish allowance the packet is in no book. -/
theorem exists_packet_unaccounted :
    Gateway.ofConfig .builtin lavish = .ok (unvisited lavish) ∧
      (unvisited lavish).record packetsOf hurry = [⟨"CH", []⟩] ∧
      let m := ((unvisited lavish).run hurry).hall.metrics
      m.floodDrops.get [] = 0 ∧ m.unknownCommands.get [] = 0 ∧ m.dispatchDuration.total = 0 :=
  ⟨ofConfig_of_clean (by decide), by decide +kernel, by decide +kernel⟩

end Gateway
end CourtroomGateway
