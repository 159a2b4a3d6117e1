import CourtroomGateway.Proofs.Commands.Turns

/-! What a turn does to the time. It may take a while, and notes when it heard from the client: a
check is noted at the instant at which its turn begins, and nothing else that a client may send is
noted, whether it is answered, refused or unknown. -/

namespace CourtroomGateway

namespace Scene

/-- Time does not go back, and the client is not heard from. -/
structure Unheard (s t : Scene) : Prop where
  clock : s.hall.clock ≤ t.hall.clock
  last : t.client.lastKeepalive = s.client.lastKeepalive

theorem Unheard.trans {s t u : Scene} (h : s.Unheard t) (h' : t.Unheard u) : s.Unheard u :=
  ⟨Nat.le_trans h.clock h'.clock, h'.last.trans h.last⟩

theorem unheard_reply (s : Scene) (p : Wire.Packet) : s.Unheard (s.reply p) := ⟨Nat.le_refl _, rfl⟩

theorem unheard_replyAll (s : Scene) (ps : List Wire.Packet) : s.Unheard (s.replyAll ps) := by
  induction ps generalizing s with
  | nil => exact ⟨Nat.le_refl _, rfl⟩
  | cons p ps ih => exact (s.unheard_reply p).trans (ih (s.reply p))

theorem unheard_enter (s : Scene) (index : Nat) (area : Area) (lead : List Wire.Packet) :
    s.Unheard (s.enter index area lead) := by
  have released : s.Unheard (s.releaseIfTaken index) := by
    unfold releaseIfTaken
    split
    · exact ⟨Nat.le_refl _, rfl⟩
    split <;> exact ⟨Nat.le_refl _, rfl⟩
  have joined : s.Unheard ((s.releaseIfTaken index).join index) := ⟨released.clock, released.last⟩
  exact joined.trans (unheard_replyAll _ _)

theorem unheard_joining {act : Commands.JoiningAct} (other : act ≠ .keepAlive) (s : Scene) :
    s.Unheard (Commands.Joining.perform act s) := by
  cases act with
  | greet hardwareId =>
    have named : s.Unheard { s with client := { s.client with hardwareId := some hardwareId } } :=
      ⟨Nat.le_refl _, rfl⟩
    exact named.trans (unheard_replyAll _ _)
  | identify software version => exact ⟨Nat.le_refl _, rfl⟩
  | counts => exact s.unheard_reply _
  | characters => exact s.unheard_reply _
  | music => exact s.unheard_reply _
  | enter area => exact s.unheard_enter _ _ _
  | keepAlive => exact absurd rfl other

theorem unheard_spoken (s : Scene) (area : Nat) (m : Speech.Message) :
    s.Unheard (Commands.Speaking.perform (.spoken area m) s) := by
  have shown : s.Unheard (Commands.Speaking.commitPose (Commands.Speaking.note s m) m) := by
    unfold Commands.Speaking.commitPose
    split <;> exact ⟨Nat.le_refl _, rfl⟩
  exact ⟨Nat.le_trans shown.clock (Nat.le_add_right _ _), shown.last⟩

end Scene

/-- Only a check is heard. -/
theorem Request.unheard_perform {request : Request} (other : request ≠ .joining .keepAlive)
    (s : Scene) : s.Unheard (request.perform s) := by
  cases request with
  | joining act => exact Scene.unheard_joining (fun same => other (congrArg joining same)) s
  | character act => exact ⟨Nat.le_refl _, rfl⟩
  | chatting act => exact ⟨Nat.le_refl _, rfl⟩
  | music act =>
    cases act with
    | stay => exact ⟨Nat.le_refl _, rfl⟩
    | move index area => exact s.unheard_enter index area []
    | play area track showname => exact ⟨Nat.le_refl _, rfl⟩
  | speaking act =>
    cases act with
    | unread error => exact ⟨Nat.le_refl _, rfl⟩
    | silent m => exact ⟨Nat.le_refl _, rfl⟩
    | spoken area m => exact s.unheard_spoken area m

theorem Commands.Joining.decide_keepAlive_iff {s : Scene} {p : Wire.Packet} :
    decide s p = .ok .keepAlive ↔ p.command = "CH" := by
  constructor
  · intro decided
    unfold decide at decided
    grind
  · intro command
    simp only [decide, command]

namespace Scene

theorem request_keepAlive_iff {s : Scene} {p : Wire.Packet} :
    s.request p = .ok (.joining .keepAlive) ↔ p.command = "CH" := by
  rw [request_eq_ok_iff, Request.Decided, Commands.Joining.decide_keepAlive_iff]
  exact and_iff_right_of_imp fun command => by rw [command]; decide

/-- What a turn does to the time. The client stays who it is and was last heard from at that
instant; the clock does not go back, and ids are not given out again. -/
structure Timed (s t : Scene) (last : Nat) : Prop where
  id : t.client.id = s.client.id
  config : t.hall.config = s.hall.config
  nextId : s.hall.court.roster.nextId ≤ t.hall.court.roster.nextId
  clock : s.hall.clock ≤ t.hall.clock
  last : t.client.lastKeepalive = last

/-- The instant at which the client was last heard from when the packet had its turn. -/
def heardAfter (s : Scene) (p : Wire.Packet) : Nat :=
  if p.command = "CH" then s.hall.clock else s.client.lastKeepalive

theorem Unheard.timed {s t : Scene} (h : s.Unheard t) (spares : s.Spares t) :
    s.Timed t s.client.lastKeepalive :=
  ⟨spares.id, spares.config, Nat.le_of_eq spares.nextId.symm, h.clock, h.last⟩

end Scene

/-- The handler does not note that it has heard from the client. -/
def Handler.Inattentive (handler : Handler) : Prop :=
  ∀ (s : Scene) (p : Wire.Packet), s.Timed (handler s p).scene s.client.lastKeepalive

namespace Handlers

/-- Checks are noted at the instant of their turn, and nothing else is. -/
def Punctual (hs : Handlers) : Prop :=
  ∀ (s : Scene) (p : Wire.Packet), s.Timed (hs.dispatch s p).scene (s.heardAfter p)

theorem punctual_builtin : builtin.Punctual := by
  intro s p
  have spares := (s.turned_dispatch p).spares
  rw [dispatch_builtin] at spares ⊢
  by_cases command : p.command = "CH"
  · rw [Scene.request_keepAlive_iff.2 command] at spares ⊢
    have heard : s.hall.clock = s.heardAfter p := (if_pos command).symm
    exact ⟨spares.id, spares.config, Nat.le_of_eq spares.nextId.symm, Nat.le_refl _, heard⟩
  rw [Scene.heardAfter, if_neg command]
  cases asked : s.request p with
  | error refusal =>
    rw [asked] at spares
    have refused : s.Unheard (refuse s p refusal) := by
      unfold refuse
      split <;> exact ⟨Nat.le_refl _, rfl⟩
    exact refused.timed spares
  | ok request =>
    rw [asked] at spares
    have other : request ≠ .joining .keepAlive := by
      rintro rfl
      exact command (Scene.request_keepAlive_iff.1 asked)
    obtain ⟨clock, last⟩ := request.unheard_perform other s
    exact Scene.Unheard.timed ⟨clock, last⟩ spares

theorem Punctual.register {hs : Handlers} (punctual : hs.Punctual) {commands : List String}
    (other : "CH" ∉ commands) {handler : Handler} (inattentive : handler.Inattentive) :
    (hs.register commands handler).Punctual := by
  intro s p
  have found := hs.find?_register commands handler p.command
  by_cases own : p.command ∈ commands
  · rw [if_pos own] at found
    have command : p.command ≠ "CH" := fun same => other (same ▸ own)
    obtain ⟨id, config, nextId, clock, last⟩ := inattentive s p
    rw [Scene.heardAfter, if_neg command]
    unfold dispatch
    simp only [found]
    split <;> exact ⟨id, config, nextId, clock, last⟩
  · rw [if_neg own] at found
    have same : (hs.register commands handler).dispatch s p = hs.dispatch s p := by
      simp only [dispatch, found]
    rw [same]
    exact punctual s p

end Handlers
end CourtroomGateway
