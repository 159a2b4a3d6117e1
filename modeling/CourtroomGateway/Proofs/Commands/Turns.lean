import CourtroomGateway.Proofs.Commands.Requests
import CourtroomGateway.Proofs.Court.Delivery
import CourtroomGateway.Proofs.Court.Presence

/-! What the turn of a client does to the court and to the client, mail and metrics aside. There
are four ways: nothing changes, the client shows a pose, it picks a character, or it enters an
area after letting go of a character that is taken there. No other client is touched. -/

namespace CourtroomGateway

namespace Scene

/-- Nothing differs but mail, metrics, the clock and what only concerns the client itself. -/
structure Alike (s t : Scene) : Prop where
  roster : t.hall.court.roster = s.hall.court.roster
  presence : t.hall.court.presence = s.hall.court.presence
  config : t.hall.config = s.hall.config
  id : t.client.id = s.client.id
  transport : t.client.transport = s.client.transport
  charId : t.client.charId = s.client.charId
  area : t.client.area = s.client.area

theorem Alike.refl (s : Scene) : s.Alike s := ⟨rfl, rfl, rfl, rfl, rfl, rfl, rfl⟩

theorem Alike.trans {s t u : Scene} (h : s.Alike t) (h' : t.Alike u) : s.Alike u where
  roster := h'.roster.trans h.roster
  presence := h'.presence.trans h.presence
  config := h'.config.trans h.config
  id := h'.id.trans h.id
  transport := h'.transport.trans h.transport
  charId := h'.charId.trans h.charId
  area := h'.area.trans h.area

theorem alike_reply (s : Scene) (p : Wire.Packet) : s.Alike (s.reply p) :=
  ⟨rfl, rfl, rfl, rfl, rfl, rfl, rfl⟩

theorem alike_replyAll (s : Scene) (ps : List Wire.Packet) : s.Alike (s.replyAll ps) := by
  induction ps generalizing s with
  | nil => exact .refl s
  | cons p ps ih => exact (s.alike_reply p).trans (ih (s.reply p))

theorem alike_recordDuration (s : Scene) (command : String) (started : Nat) :
    s.Alike (Handlers.recordDuration command started s) := ⟨rfl, rfl, rfl, rfl, rfl, rfl, rfl⟩

theorem alike_refuse (s : Scene) (p : Wire.Packet) (refusal : Refusal) :
    s.Alike (Handlers.refuse s p refusal) := by
  unfold Handlers.refuse
  split
  · exact ⟨rfl, rfl, rfl, rfl, rfl, rfl, rfl⟩
  · exact ⟨rfl, rfl, rfl, rfl, rfl, rfl, rfl⟩

/-- The client's pose in the roster, replaced. -/
def showPose (s : Scene) (pose : Speech.Pose) : Scene :=
  { s with
    hall :=
      { s.hall with
        court :=
          { s.hall.court with roster := s.hall.court.roster.setPose s.client.id pose } } }

/-- The ways in which a packet can leave the scene. -/
inductive Turned (s : Scene) (p : Wire.Packet) (t : Scene) : Prop
  | kept (same : s.Alike t)
  | posed (m : Speech.Message) (decoded : Speech.decode p.args = .ok m)
      (same : (s.showPose (.ofMessage m)).Alike t)
  | picked (act : Commands.CharacterAct) (decided : Commands.Character.decide s p = .ok act)
      (same : (s.setCharacter act.charId (.idle act.folder)).Alike t)
  | entered (index : Nat) (area : Area) (known : s.hall.config.areas[index]? = some area)
      (same : ((s.releaseIfTaken index).join index).Alike t)

/-- A character that nobody in the area holds is kept, and any other let go of. -/
theorem releaseIfTaken_cases (s : Scene) (area : Nat) :
    (s.releaseIfTaken area = s ∧ (0 ≤ s.client.charId → ¬ s.taken area s.client.charId)) ∨
      (s.setCharacter (-1) {}).Alike (s.releaseIfTaken area) := by
  unfold releaseIfTaken
  split
  next watching =>
    refine .inl ⟨rfl, fun playing => ?_⟩
    simp only [Client.isSpectator, decide_eq_true_eq] at watching
    exact absurd playing (Int64.not_le.2 watching)
  split
  next => exact .inr (alike_reply _ _)
  next free => exact .inl ⟨rfl, fun _ => free⟩

theorem alike_enter (s : Scene) (index : Nat) (area : Area) (lead : List Wire.Packet) :
    ((s.releaseIfTaken index).join index).Alike (s.enter index area lead) :=
  alike_replyAll _ _

theorem alike_publishLossy (s : Scene) (area : Nat) (p : Wire.Packet) :
    s.Alike { s with hall := s.hall.publishLossy area p } :=
  ⟨Court.roster_postAll _ _ _, Court.presence_postAll _ _ _, rfl, rfl, rfl, rfl, rfl⟩

theorem alike_publishReliable (s : Scene) (area : Nat) (p : Wire.Packet) (timeout : Nat)
    (origin : Option Nat) :
    s.Alike { s with hall := s.hall.publishReliable area p timeout origin } := by
  have court := s.hall.court.court_publishReliable area p.toWire timeout origin
  refine ⟨?_, ?_, rfl, rfl, rfl, rfl, rfl⟩
  · exact (congrArg Court.roster court).trans (Court.roster_postAll _ _ _)
  · exact (congrArg Court.presence court).trans (Court.presence_postAll _ _ _)

theorem alike_joining {act : Commands.JoiningAct} (stays : ¬ ∃ area, act = .enter area)
    (s : Scene) : s.Alike (Commands.Joining.perform act s) := by
  cases act with
  | greet hardwareId =>
    have named : s.Alike { s with client := { s.client with hardwareId := some hardwareId } } :=
      ⟨rfl, rfl, rfl, rfl, rfl, rfl, rfl⟩
    exact named.trans (alike_replyAll _ _)
  | identify software version => exact ⟨rfl, rfl, rfl, rfl, rfl, rfl, rfl⟩
  | counts => exact alike_reply _ _
  | characters => exact alike_reply _ _
  | music => exact alike_reply _ _
  | enter area => exact absurd ⟨area, rfl⟩ stays
  | keepAlive => exact ⟨rfl, rfl, rfl, rfl, rfl, rfl, rfl⟩

theorem turned_joining {s : Scene} {p : Wire.Packet} {act : Commands.JoiningAct}
    (decided : Commands.Joining.decide s p = .ok act) :
    s.Turned p (Commands.Joining.perform act s) := by
  by_cases enters : ∃ area, act = .enter area
  · obtain ⟨area, rfl⟩ := enters
    exact .entered 0 area (Commands.Joining.decide_enter decided) (alike_enter _ _ _ _)
  · exact .kept (alike_joining enters s)

theorem alike_shown {m : Speech.Message} (silent : ¬ m.commitsPose) (s : Scene) :
    s.Alike (Commands.Speaking.commitPose (Commands.Speaking.note s m) m) := by
  rw [Commands.Speaking.commitPose, if_neg silent]
  exact ⟨rfl, rfl, rfl, rfl, rfl, rfl, rfl⟩

theorem alike_shown_of_commits {m : Speech.Message} (commits : m.commitsPose) (s : Scene) :
    (s.showPose (.ofMessage m)).Alike
      (Commands.Speaking.commitPose (Commands.Speaking.note s m) m) := by
  rw [Commands.Speaking.commitPose, if_pos commits]
  exact ⟨rfl, rfl, rfl, rfl, rfl, rfl, rfl⟩

theorem alike_spoken {m : Speech.Message} (silent : ¬ m.commitsPose) (s : Scene) (area : Nat) :
    s.Alike (Commands.Speaking.perform (.spoken area m) s) :=
  (alike_shown silent s).trans (alike_publishReliable _ _ _ _ _)

theorem alike_spoken_of_commits {m : Speech.Message} (commits : m.commitsPose) (s : Scene)
    (area : Nat) :
    (s.showPose (.ofMessage m)).Alike (Commands.Speaking.perform (.spoken area m) s) :=
  (alike_shown_of_commits commits s).trans (alike_publishReliable _ _ _ _ _)

theorem turned_speaking {s : Scene} {p : Wire.Packet} {act : Commands.SpeakingAct}
    (judged : Commands.Speaking.judge s p = act) :
    s.Turned p (Commands.Speaking.perform act s) := by
  cases act with
  | unread error => exact .kept ⟨rfl, rfl, rfl, rfl, rfl, rfl, rfl⟩
  | silent m => exact .kept ⟨rfl, rfl, rfl, rfl, rfl, rfl, rfl⟩
  | spoken area m =>
    obtain ⟨decoded, -, -⟩ := Commands.Speaking.judge_spoken_iff.1 judged
    by_cases commits : m.commitsPose
    · exact .posed m decoded (alike_spoken_of_commits commits s area)
    · exact .kept (alike_spoken commits s area)

theorem turned_music {s : Scene} {p : Wire.Packet} {act : Commands.MusicAct}
    (decided : Commands.Music.decide s p = .ok act) :
    s.Turned p (Commands.Music.perform act s) := by
  cases act with
  | stay => exact .kept (.refl s)
  | move index area =>
    exact .entered index area (Commands.Music.decide_move decided) (alike_enter _ _ _ _)
  | play area track showname => exact .kept (alike_publishLossy _ _ _)

/-- Every packet leaves the scene in one of the four ways. -/
theorem turned_request {s : Scene} {p : Wire.Packet} {request : Request}
    (h : s.request p = .ok request) : s.Turned p (request.perform s) := by
  have decided := decided_of_request h
  cases request with
  | joining act => exact turned_joining decided.2
  | character act => exact .picked act decided.2 (alike_reply _ _)
  | speaking act => exact turned_speaking decided.2
  | chatting act => exact .kept (alike_publishLossy _ _ _)
  | music act => exact turned_music decided.2

theorem Turned.alike {s t u : Scene} {p : Wire.Packet} (h : s.Turned p t) (h' : t.Alike u) :
    s.Turned p u := by
  cases h with
  | kept same => exact .kept (same.trans h')
  | posed m decoded same => exact .posed m decoded (same.trans h')
  | picked act decided same => exact .picked act decided (same.trans h')
  | entered index area known same => exact .entered index area known (same.trans h')

theorem turned_dispatch (s : Scene) (p : Wire.Packet) :
    s.Turned p (Handlers.builtin.dispatch s p).scene := by
  rw [Handlers.dispatch_builtin]
  cases asked : s.request p with
  | error refusal => exact .kept (alike_refuse s p refusal)
  | ok request => exact (turned_request asked).alike (alike_recordDuration _ _ _)

/-- Only the client's own entries may differ, and it stays on the roster. -/
structure Spares (s t : Scene) : Prop where
  config : t.hall.config = s.hall.config
  id : t.client.id = s.client.id
  transport : t.client.transport = s.client.transport
  nextId : t.hall.court.roster.nextId = s.hall.court.roster.nextId
  enrolled : ∀ i, t.hall.court.roster.contains i = s.hall.court.roster.contains i
  profile : ∀ i, i ≠ s.client.id → t.hall.court.roster.find? i = s.hall.court.roster.find? i
  place : ∀ i, i ≠ s.client.id →
    t.hall.court.presence.areaOf i = s.hall.court.presence.areaOf i
  consistent : s.hall.court.presence.Consistent → t.hall.court.presence.Consistent

theorem Spares.trans {s t u : Scene} (h : s.Spares t) (h' : t.Spares u) : s.Spares u where
  config := h'.config.trans h.config
  id := h'.id.trans h.id
  transport := h'.transport.trans h.transport
  nextId := h'.nextId.trans h.nextId
  enrolled i := (h'.enrolled i).trans (h.enrolled i)
  profile i apart := (h'.profile i (h.id ▸ apart)).trans (h.profile i apart)
  place i apart := (h'.place i (h.id ▸ apart)).trans (h.place i apart)
  consistent := h'.consistent ∘ h.consistent

theorem Alike.spares {s t : Scene} (h : s.Alike t) : s.Spares t where
  config := h.config
  id := h.id
  transport := h.transport
  nextId := by rw [h.roster]
  enrolled i := by rw [h.roster]
  profile i _ := by rw [h.roster]
  place i _ := by rw [h.presence]
  consistent sound := h.presence ▸ sound

theorem spares_showPose (s : Scene) (pose : Speech.Pose) : s.Spares (s.showPose pose) where
  config := rfl
  id := rfl
  transport := rfl
  nextId := rfl
  enrolled i := by
    simp only [showPose, Court.Roster.contains, Court.Roster.find?_setPose]
    split <;> simp
  profile i apart := by simp [showPose, apart]
  place _ _ := rfl
  consistent := id

theorem spares_setCharacter (s : Scene) (charId : Int64) (pose : Speech.Pose) :
    s.Spares (s.setCharacter charId pose) where
  config := rfl
  id := rfl
  transport := rfl
  nextId := rfl
  enrolled i := by
    simp only [setCharacter, Court.Roster.contains, Court.Roster.find?_setCharacter]
    split <;> simp
  profile i apart := by simp [setCharacter, apart]
  place _ _ := rfl
  consistent := id

theorem spares_join (s : Scene) (area : Nat) : s.Spares (s.join area) where
  config := rfl
  id := rfl
  transport := rfl
  nextId := rfl
  enrolled _ := rfl
  profile _ _ := rfl
  place i apart := by simp [join, apart]
  consistent consistent := consistent.join area s.client.id

theorem spares_releaseIfTaken (s : Scene) (area : Nat) : s.Spares (s.releaseIfTaken area) := by
  rcases s.releaseIfTaken_cases area with ⟨kept, -⟩ | released
  · rw [kept]
    exact (Alike.refl s).spares
  · exact (s.spares_setCharacter (-1) {}).trans released.spares

theorem Turned.spares {s t : Scene} {p : Wire.Packet} (h : s.Turned p t) : s.Spares t := by
  cases h with
  | kept same => exact same.spares
  | posed m decoded same => exact (s.spares_showPose _).trans same.spares
  | picked act decided same => exact (s.spares_setCharacter _ _).trans same.spares
  | entered index area known same =>
    have entered := (s.spares_releaseIfTaken index).trans (spares_join _ index)
    exact entered.trans same.spares

end Scene
end CourtroomGateway
