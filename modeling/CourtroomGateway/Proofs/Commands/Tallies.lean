import CourtroomGateway.Proofs.Commands.Requests
import CourtroomGateway.Proofs.Metrics.Samples

/-! What a turn counts. While a request is performed only the messages that clients speak are
counted, by their dialect or by the reason why they cannot be read; everything else about a turn is
counted by dispatch. All labels that are counted under have plain names, whatever their values. -/

namespace CourtroomGateway

/-- Each transport has series of its own. -/
theorem Transport.key_label_iff {a b : Transport} :
    Metrics.LabelSet.of [a.label] = Metrics.LabelSet.of [b.label] ↔ a = b := by
  cases a <;> cases b <;> decide

namespace Request

/-- The metrics after the request was performed. -/
def tally : Request → Metrics → Metrics
  | speaking (.unread error), m =>
    { m with decodeFailures := m.decodeFailures.inc [⟨"reason", error.reason⟩] }
  | speaking (.silent message), m =>
    { m with decoded := m.decoded.inc [⟨"dialect", message.dialect.name⟩] }
  | speaking (.spoken _ message), m =>
    { m with decoded := m.decoded.inc [⟨"dialect", message.dialect.name⟩] }
  | _, m => m

end Request

namespace Scene

theorem metrics_replyAll (s : Scene) (ps : List Wire.Packet) :
    (s.replyAll ps).hall.metrics = s.hall.metrics := by
  induction ps generalizing s with
  | nil => rfl
  | cons p ps ih => exact ih (s.reply p)

theorem metrics_enter (s : Scene) (index : Nat) (area : Area) (lead : List Wire.Packet) :
    (s.enter index area lead).hall.metrics = s.hall.metrics := by
  have released : (s.releaseIfTaken index).hall.metrics = s.hall.metrics := by
    unfold releaseIfTaken
    split
    · rfl
    split <;> rfl
  exact (metrics_replyAll _ _).trans released

end Scene

theorem Request.metrics_perform (request : Request) (s : Scene) :
    (request.perform s).hall.metrics = request.tally s.hall.metrics := by
  cases request with
  | joining act =>
    cases act with
    | greet hardwareId => exact Scene.metrics_replyAll _ _
    | enter area => exact s.metrics_enter 0 area [.named "DONE"]
    | _ => rfl
  | character act => rfl
  | chatting act => rfl
  | music act =>
    cases act with
    | move index area => exact s.metrics_enter index area []
    | _ => rfl
  | speaking act =>
    cases act with
    | unread error => rfl
    | silent message => rfl
    | spoken area message =>
      have shown : (Commands.Speaking.commitPose (Commands.Speaking.note s message)
          message).hall.metrics = (Commands.Speaking.note s message).hall.metrics := by
        unfold Commands.Speaking.commitPose
        split <;> rfl
      exact shown

/-- The families that are counted where sessions open, close and are framed are the same. -/
structure Metrics.Outlasts (m m' : Metrics) : Prop where
  connections : m'.connections = m.connections
  activeSessions : m'.activeSessions = m.activeSessions
  framingOverflows : m'.framingOverflows = m.framingOverflows

theorem Request.outlasts_tally (request : Request) (m : Metrics) :
    m.Outlasts (request.tally m) := by
  unfold Request.tally
  split <;> exact ⟨rfl, rfl, rfl⟩

/-- No turn counts in these families. -/
theorem Scene.outlasts_dispatch (s : Scene) (p : Wire.Packet) :
    s.hall.metrics.Outlasts (Handlers.builtin.dispatch s p).scene.hall.metrics := by
  rw [Handlers.dispatch_builtin]
  cases s.request p with
  | error refusal =>
    rw [Handlers.answer, Handlers.refuse]
    split <;> exact ⟨rfl, rfl, rfl⟩
  | ok request =>
    have performed := request.outlasts_tally s.hall.metrics
    rw [← request.metrics_perform] at performed
    exact ⟨performed.connections, performed.activeSessions, performed.framingOverflows⟩

namespace Metrics.Plain

variable {m : Metrics} (plain : m.Plain)
include plain

theorem tally (request : Request) : (request.tally m).Plain := by
  unfold Request.tally
  split
  next error =>
    exact { plain with
      decodeFailures := plain.decodeFailures.insert_single (by decide) _ _ }
  next message =>
    exact { plain with
      decoded := plain.decoded.insert_single (by decide) _ _ }
  next message =>
    exact { plain with
      decoded := plain.decoded.insert_single (by decide) _ _ }
  next => exact plain

end Metrics.Plain

namespace Scene

variable {s : Scene} (plain : s.hall.metrics.Plain)
include plain

theorem plain_recordDuration (command : String) (started : Nat) :
    (Handlers.recordDuration command started s).hall.metrics.Plain :=
  { plain with
    dispatchDuration := plain.dispatchDuration.insert_single (by decide) _ _ }

theorem plain_refuse (p : Wire.Packet) (refusal : Refusal) :
    (Handlers.refuse s p refusal).hall.metrics.Plain := by
  unfold Handlers.refuse
  split
  · have timed := plain_recordDuration plain p.command s.hall.clock
    refine { timed with handlerErrors := timed.handlerErrors.insert ?_ _ }
    exact List.forall_mem_cons.2 ⟨Metrics.Label.plain_of_name (by decide) _,
      List.forall_mem_singleton.2 (Metrics.Label.plain_of_name (by decide) _)⟩
  · exact { plain with unknownCommands := plain.unknownCommands.insert (List.forall_mem_nil _) _ }

theorem plain_dispatch (p : Wire.Packet) :
    (Handlers.builtin.dispatch s p).scene.hall.metrics.Plain := by
  rw [Handlers.dispatch_builtin]
  cases s.request p with
  | error refusal => exact plain_refuse plain p refusal
  | ok request =>
    have performed : (request.perform s).hall.metrics.Plain := by
      rw [request.metrics_perform]
      exact plain.tally request
    exact plain_recordDuration performed p.command s.hall.clock

end Scene
end CourtroomGateway
