import CourtroomGateway.Proofs.Gateway.Deliveries
import CourtroomGateway.Proofs.Metrics.Series

/-! What a refused command leaves behind. Every rule decides before it performs anything, so a
refusal is found before the first change: sessions, court, clock and configuration stay as they
were, and the metrics count the refusal once. -/

namespace CourtroomGateway

namespace Metrics

/-- A packet that has no handler was counted, and all other families are the same. -/
structure CountsUnknown (m m' : Metrics) : Prop where
  counted : m.unknownCommands.Gains m'.unknownCommands [] 1
  others : m' = { m with unknownCommands := m'.unknownCommands }

/-- A handler's refusal was counted and timed, and all other families are the same. -/
structure CountsFault (m m' : Metrics) (command : String) (code : Code) : Prop where
  timed : m.dispatchDuration.Gains m'.dispatchDuration [⟨"cmd", command⟩]
  counted : m.handlerErrors.Gains m'.handlerErrors [⟨"cmd", command⟩, ⟨"code", code.name⟩] 1
  others : m' = { m with
    dispatchDuration := m'.dispatchDuration
    handlerErrors := m'.handlerErrors }

end Metrics

namespace Scene

def withMetrics (s : Scene) (metrics : Metrics) : Scene :=
  { s with hall := { s.hall with metrics } }

theorem countsUnknown_recordUnknown (s : Scene) :
    ∃ metrics, Handlers.recordUnknown s = s.withMetrics metrics ∧
      s.hall.metrics.CountsUnknown metrics :=
  ⟨_, rfl, s.hall.metrics.unknownCommands.gains_add [] 1, rfl⟩

theorem countsFault_recordFault (s : Scene) (command : String) (started : Nat) (fault : Fault) :
    ∃ metrics, Handlers.recordFault command fault (Handlers.recordDuration command started s) =
        s.withMetrics metrics ∧
      s.hall.metrics.CountsFault metrics command fault.code :=
  ⟨_, rfl, s.hall.metrics.dispatchDuration.gains_observe _ _,
    s.hall.metrics.handlerErrors.gains_add _ 1, rfl⟩

/-- A refused packet leaves the scene as it was, but for what the metrics count. -/
theorem refused_dispatch {s : Scene} {p : Wire.Packet} {fault : Fault}
    (refused : (Handlers.builtin.dispatch s p).outcome = .refused fault) :
    ∃ metrics, (Handlers.builtin.dispatch s p).scene = s.withMetrics metrics ∧
      (p.command ∉ Handlers.builtin.commands → s.hall.metrics.CountsUnknown metrics) ∧
      (p.command ∈ Handlers.builtin.commands →
        s.hall.metrics.CountsFault metrics p.command fault.code) := by
  have known : p.command ∈ Handlers.builtin.commands ↔
      Handlers.builtin.table.contains p.command := Table.mem_keys_iff _ _
  rw [Handlers.dispatch_builtin] at refused ⊢
  cases asked : s.request p with
  | ok request =>
    rw [asked] at refused
    cases refused
  | error refusal =>
    rw [asked] at refused
    obtain rfl : refusal.toFault = fault := Outcome.refused.inj refused
    simp only [Handlers.answer, Handlers.refuse, known]
    split
    next handled =>
      obtain ⟨metrics, same, counts⟩ :=
        s.countsFault_recordFault p.command s.hall.clock refusal.toFault
      exact ⟨metrics, same, fun missing => absurd handled missing, fun _ => counts⟩
    next missing =>
      obtain ⟨metrics, same, counts⟩ := s.countsUnknown_recordUnknown
      exact ⟨metrics, same, fun _ => counts, fun handled => absurd handled missing⟩

end Scene

namespace Gateway

def withMetrics (g : Gateway) (metrics : Metrics) : Gateway :=
  { g with hall := { g.hall with metrics } }

theorem after_withMetrics {g : Gateway} {id : Nat} {session : Session}
    (live : g.sessions.find? id = some session) (metrics : Metrics) :
    g.after id ((g.visit session).withScene ((g.visit session).scene.withMetrics metrics)) =
      g.withMetrics metrics := by
  have sessions : g.sessions.insert id session = g.sessions :=
    congrArg Gateway.sessions (after_self live)
  change { g with
    hall := { g.hall with metrics }
    sessions := g.sessions.insert id session } = g.withMetrics metrics
  rw [sessions]
  rfl

/-- In every state that can be reached, a packet that is refused changes no session, no entry of
the roster or of presence, no queue and nothing else but the metrics, which count it once: as a
packet without a handler, or under its command and the code of its fault. -/
theorem refused_unchanged {config : Config} {g : Gateway} (reached : Reached config g) {id : Nat}
    {session : Session} (live : g.sessions.find? id = some session) (p : Wire.Packet)
    {fault : Fault}
    (refused : (g.handlers.dispatch (g.visit session).scene p).outcome = .refused fault) :
    ∃ metrics,
      g.after id
          ((g.visit session).withScene (g.handlers.dispatch (g.visit session).scene p).scene) =
        g.withMetrics metrics ∧
      (p.command ∉ g.handlers.commands → g.hall.metrics.CountsUnknown metrics) ∧
      (p.command ∈ g.handlers.commands →
        g.hall.metrics.CountsFault metrics p.command fault.code) := by
  obtain ⟨coherent, -⟩ := reached.sound
  rw [coherent.builtin] at refused ⊢
  obtain ⟨metrics, same, counted⟩ := Scene.refused_dispatch refused
  refine ⟨metrics, ?_, counted⟩
  rw [same]
  exact after_withMetrics live metrics

/-- One client plays the only character in the only area, and another watches. -/
def watched : Gateway :=
  opening.run [.arrive .tcp 0, .arrive .ws 0, feeds 0 "CC#0#0#%RD#%", feeds 1 "RD#%"]

/-- The one who watches asks for the character. -/
theorem refused_unchanged_watched :
    Reached lobby watched ∧ ∃ session, watched.sessions.find? 1 = some session ∧
      (watched.handlers.dispatch (watched.visit session).scene ⟨"CC", ["1", "0"]⟩).outcome =
        .refused (.notAllowed "character 0 taken") ∧
      ∃ metrics,
        watched.after 1
            ((watched.visit session).withScene
              (watched.handlers.dispatch (watched.visit session).scene ⟨"CC", ["1", "0"]⟩).scene) =
          watched.withMetrics metrics ∧
        watched.hall.metrics.CountsFault metrics "CC" .notAllowed := by
  have reached : Reached lobby watched := reached_run ofConfig_lobby _
  have evaluated : ((watched.sessions.find? 1).map fun session =>
      (watched.handlers.dispatch (watched.visit session).scene ⟨"CC", ["1", "0"]⟩).outcome) =
      some (.refused (.notAllowed "character 0 taken")) := by
    decide +kernel
  obtain ⟨session, live, refused⟩ := Option.map_eq_some_iff.1 evaluated
  have handled : "CC" ∈ watched.handlers.commands := by decide +kernel
  obtain ⟨metrics, same, -, counts⟩ := refused_unchanged reached live ⟨"CC", ["1", "0"]⟩ refused
  exact ⟨reached, session, live, refused, metrics, same, counts handled⟩

end Gateway
end CourtroomGateway
