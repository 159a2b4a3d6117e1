import CourtroomGateway.Proofs.Gateway.Coherence

/-! What the roster remembers of a client. Only the client's own turns change its profile: a turn
that recasts it leaves an idle pose, and a message that changes what is shown leaves its own pose
with the character it was spoken for. So a pose that is not idle is the one that the client showed
last, and the client was not recast since. -/

namespace CourtroomGateway

/-- The client has to let go of its character to enter the area. -/
def Scene.Yields (s : Scene) (area : Nat) : Prop :=
  ¬ s.client.isSpectator ∧ s.taken area s.client.charId

theorem Scene.roster_releaseIfTaken (s : Scene) (area : Nat) :
    (s.Yields area → (s.releaseIfTaken area).hall.court.roster =
        s.hall.court.roster.setCharacter s.client.id (-1) (.idle "")) ∧
      (¬ s.Yields area → (s.releaseIfTaken area).hall.court.roster = s.hall.court.roster) := by
  unfold releaseIfTaken
  split
  next watching => exact ⟨fun yields => absurd watching yields.1, fun _ => rfl⟩
  split
  next playing taken => exact ⟨fun _ => rfl, fun keeps => absurd ⟨playing, taken⟩ keeps⟩
  next free => exact ⟨fun yields => absurd yields.2 free, fun _ => rfl⟩

namespace Request

/-- The request gives the client a character, or brings it into an area where its own is held. -/
def Recasts (s : Scene) : Request → Prop
  | character _ => True
  | joining (.enter _) => s.Yields 0
  | music (.move index _) => s.Yields index
  | _ => False

/-- The request broadcasts the message, and the message changes what its speaker shows. -/
def Commits (area : Nat) (m : Speech.Message) : Request → Prop
  | speaking (.spoken place message) => place = area ∧ message = m ∧ m.commitsPose
  | _ => False

theorem roster_of_recasts {request : Request} {s : Scene} (recasts : request.Recasts s) :
    ∃ charId folder, (request.perform s).hall.court.roster =
      s.hall.court.roster.setCharacter s.client.id charId (.idle folder) := by
  cases request with
  | character act => exact ⟨act.charId, act.folder, rfl⟩
  | speaking act => cases recasts
  | chatting act => cases recasts
  | joining act =>
    cases act with
    | enter area =>
      have entered := (s.alike_enter 0 area [.named "DONE"]).roster
      exact ⟨-1, "", entered.trans ((s.roster_releaseIfTaken 0).1 recasts)⟩
    | _ => cases recasts
  | music act =>
    cases act with
    | move index area =>
      have entered := (s.alike_enter index area []).roster
      exact ⟨-1, "", entered.trans ((s.roster_releaseIfTaken index).1 recasts)⟩
    | _ => cases recasts

theorem roster_of_commits {request : Request} {area : Nat} {m : Speech.Message}
    (commits : request.Commits area m) (s : Scene) :
    (request.perform s).hall.court.roster =
      s.hall.court.roster.setPose s.client.id (.ofMessage m) := by
  cases request with
  | speaking act =>
    cases act with
    | spoken place message =>
      obtain ⟨rfl, rfl, shows⟩ := commits
      exact (Scene.alike_spoken_of_commits shows s place).roster
    | _ => cases commits
  | _ => cases commits

theorem roster_of_quiet {request : Request} {s : Scene} (settled : ¬ request.Recasts s)
    (quiet : ∀ area m, ¬ request.Commits area m) :
    (request.perform s).hall.court.roster = s.hall.court.roster := by
  cases request with
  | character act => exact absurd trivial settled
  | chatting act => exact (Scene.alike_publishLossy s _ _).roster
  | joining act =>
    by_cases enters : ∃ area, act = .enter area
    · obtain ⟨area, rfl⟩ := enters
      have entered := (s.alike_enter 0 area [.named "DONE"]).roster
      exact entered.trans ((s.roster_releaseIfTaken 0).2 settled)
    · exact (Scene.alike_joining enters s).roster
  | music act =>
    cases act with
    | stay => rfl
    | move index area =>
      have entered := (s.alike_enter index area []).roster
      exact entered.trans ((s.roster_releaseIfTaken index).2 settled)
    | play area track showname => exact (Scene.alike_publishLossy s _ _).roster
  | speaking act =>
    cases act with
    | unread error => rfl
    | silent m => rfl
    | spoken area m =>
      have silent : ¬ m.commitsPose := fun shows => quiet area m ⟨rfl, rfl, shows⟩
      exact (Scene.alike_spoken silent s area).roster

end Request

namespace Scene

/-- The turn broadcasts the message in the area. -/
def Speaks (s : Scene) (p : Wire.Packet) (area : Nat) (m : Speech.Message) : Prop :=
  s.request p = .ok (.speaking (.spoken area m))

/-- The turn gives the client a character, or takes its character away where it enters an area. -/
def Recasts (s : Scene) (p : Wire.Packet) : Prop :=
  ∃ request, s.request p = .ok request ∧ request.Recasts s

/-- The turn broadcasts the message, and the message changes what its speaker shows. -/
def Commits (s : Scene) (p : Wire.Packet) (area : Nat) (m : Speech.Message) : Prop :=
  s.Speaks p area m ∧ m.commitsPose

section Asked
variable {s : Scene} {p : Wire.Packet} {request : Request} (asked : s.request p = .ok request)
include asked

theorem recasts_iff : s.Recasts p ↔ request.Recasts s := by
  refine ⟨?_, fun recasts => ⟨request, asked, recasts⟩⟩
  rintro ⟨other, granted, recasts⟩
  cases asked.symm.trans granted
  exact recasts

theorem commits_iff {area : Nat} {m : Speech.Message} :
    s.Commits p area m ↔ request.Commits area m := by
  constructor
  · rintro ⟨speaks, shows⟩
    cases asked.symm.trans speaks
    exact ⟨rfl, rfl, shows⟩
  · intro commits
    cases request with
    | speaking act =>
      cases act with
      | spoken place message =>
        obtain ⟨rfl, rfl, shows⟩ := commits
        exact ⟨asked, shows⟩
      | _ => cases commits
    | _ => cases commits

end Asked

/-- The turn neither recasts the client nor changes what it shows. -/
def Settled (s : Scene) (p : Wire.Packet) : Prop :=
  ¬ s.Recasts p ∧ ∀ area m, ¬ s.Commits p area m

/-- What becomes of the profile of the client whose turn it is. -/
inductive Reprofiles (s : Scene) (p : Wire.Packet) (old : Court.Profile) : Court.Profile → Prop
  | kept (settled : s.Settled p) : Reprofiles s p old old
  | shown {area : Nat} {m : Speech.Message} (commits : s.Commits p area m) :
      Reprofiles s p old { old with pose := .ofMessage m }
  | recast (recasts : s.Recasts p) (charId : Int64) (folder : String) :
      Reprofiles s p old ⟨charId, .idle folder⟩

theorem reprofiles_dispatch {s : Scene} {p : Wire.Packet} {profile : Court.Profile}
    (found : (Handlers.builtin.dispatch s p).scene.hall.court.roster.find? s.client.id =
      some profile) :
    ∃ old, s.hall.court.roster.find? s.client.id = some old ∧ s.Reprofiles p old profile := by
  rw [Handlers.dispatch_builtin] at found
  cases asked : s.request p with
  | error refusal =>
    have nothing : ∀ request, s.request p ≠ .ok request := by simp [asked]
    rw [asked, Handlers.answer, (s.alike_refuse p refusal).roster] at found
    refine ⟨profile, found, .kept ⟨?_, ?_⟩⟩
    · rintro ⟨request, granted, -⟩
      exact nothing request granted
    · rintro area m ⟨speaks, -⟩
      exact nothing _ speaks
  | ok request =>
    rw [asked, Handlers.answer, (alike_recordDuration _ _ _).roster] at found
    by_cases recasts : request.Recasts s
    · obtain ⟨charId, folder, roster⟩ := Request.roster_of_recasts recasts
      rw [roster, Court.Roster.find?_setCharacter, if_pos rfl] at found
      obtain ⟨old, before, rfl⟩ := Option.map_eq_some_iff.1 found
      exact ⟨old, before, .recast ((recasts_iff asked).2 recasts) charId folder⟩
    by_cases commits : ∃ area m, request.Commits area m
    · obtain ⟨area, m, commits⟩ := commits
      rw [Request.roster_of_commits commits, Court.Roster.find?_setPose, if_pos rfl] at found
      obtain ⟨old, before, rfl⟩ := Option.map_eq_some_iff.1 found
      exact ⟨old, before, .shown ((commits_iff asked).2 commits)⟩
    · have quiet (area m) : ¬ request.Commits area m := fun shows => commits ⟨area, m, shows⟩
      rw [Request.roster_of_quiet recasts quiet] at found
      exact ⟨profile, found,
        .kept ⟨mt (recasts_iff asked).1 recasts,
          fun area m => mt (commits_iff asked).1 (quiet area m)⟩⟩

end Scene

/-- The turn in which the client last showed a pose, with the message that it spoke then. It was
not recast since, and has shown no other pose. -/
structure LastShown (ts : List Turn) (id : Nat) (t : Turn) (area : Nat) (m : Speech.Message) :
    Prop where
  own : t.1.client.id = id
  commits : t.1.Commits t.2 area m
  last : ∃ before after, ts = before ++ t :: after ∧
    ∀ u ∈ after, u.1.client.id = id → u.1.Settled u.2

theorem LastShown.concat {ts : List Turn} {id : Nat} {t u : Turn} {area : Nat}
    {m : Speech.Message} (h : LastShown ts id t area m)
    (settled : u.1.client.id = id → u.1.Settled u.2) : LastShown (ts ++ [u]) id t area m where
  own := h.own
  commits := h.commits
  last := by
    obtain ⟨before, after, rfl, since⟩ := h.last
    refine ⟨before, after ++ [u], by simp, fun v mem => ?_⟩
    rcases List.mem_append.1 mem with earlier | now
    · exact since v earlier
    · rw [List.mem_singleton.1 now]
      exact settled

theorem lastShown_concat_self {t : Turn} {area : Nat} {m : Speech.Message}
    (commits : t.1.Commits t.2 area m) (ts : List Turn) :
    LastShown (ts ++ [t]) t.1.client.id t area m :=
  ⟨rfl, commits, ts, [], rfl, fun _ none => absurd none List.not_mem_nil⟩

/-- Every pose on the roster is idle, or the one its client showed last, for the character that it
still holds. -/
def Court.Roster.Recalls (r : Roster) (ts : List Turn) : Prop :=
  ∀ id profile, r.find? id = some profile →
    (∃ folder, profile.pose = .idle folder) ∨
      ∃ t area m, LastShown ts id t area m ∧ profile.charId = t.1.client.charId ∧
        profile.pose = .ofMessage m

namespace Gateway

/-- Between turns a profile is only ever begun or ended. -/
theorem find?_roster_quiet {g g' : Gateway} (step : Step (fun _ _ => False) g g') {id : Nat}
    {profile : Court.Profile} (found : g'.hall.court.roster.find? id = some profile) :
    profile = {} ∨ g.hall.court.roster.find? id = some profile := by
  cases step with
  | tend live framer bucket => exact .inr found
  | overflow live => exact .inr found
  | drop live => exact .inr found
  | collect id => exact .inr found
  | wait milliseconds => exact .inr found
  | turn live parsed admitted => exact admitted.elim
  | arrive transport now => exact find?_roster_arrive found
  | depart id => exact .inr (find?_roster_depart found)

theorem recalls_quiet {g g' : Gateway} {ts : List Turn} (h : g.hall.court.roster.Recalls ts)
    (step : Step (fun _ _ => False) g g') : g'.hall.court.roster.Recalls ts := by
  intro id profile found
  rcases find?_roster_quiet step found with rfl | before
  · exact .inl ⟨"", rfl⟩
  · exact h id profile before

theorem recalls_turn {g : Gateway} {ts : List Turn} (h : g.hall.court.roster.Recalls ts)
    (coherent : g.Coherent) {id : Nat} {session : Session}
    (live : g.sessions.find? id = some session) (p : Wire.Packet) :
    (g.handlers.dispatch (g.visit session).scene p).scene.hall.court.roster.Recalls
      (ts ++ [((g.visit session).scene, p)]) := by
  obtain ⟨named, agrees⟩ := coherent.own id session live
  rw [coherent.builtin]
  intro i profile found
  by_cases same : i = id
  · subst same
    rw [← named] at found
    obtain ⟨old, before, reprofiles⟩ := Scene.reprofiles_dispatch found
    change g.hall.court.roster.find? session.client.id = some old at before
    cases reprofiles with
    | kept settled =>
      rw [named] at before
      refine (h i profile before).imp_right fun ⟨t, area, m, shown, rest⟩ => ?_
      exact ⟨t, area, m, shown.concat fun _ => settled, rest⟩
    | @shown area m commits =>
      have character : old.charId = session.client.charId := by
        have held := agrees.character
        rw [Court.Roster.charId?, before] at held
        exact Option.some.inj held
      refine .inr ⟨((g.visit session).scene, p), area, m, ?_, character, rfl⟩
      exact named ▸ lastShown_concat_self commits ts
    | recast recasts charId folder => exact .inl ⟨folder, rfl⟩
  · have spares := ((g.visit session).scene.turned_dispatch p).spares
    have before : g.hall.court.roster.find? i = some profile :=
      (spares.profile i (named.symm ▸ same)).symm.trans found
    refine (h i profile before).imp_right fun ⟨t, area, m, shown, rest⟩ => ?_
    exact ⟨t, area, m, shown.concat fun own => absurd (own.symm.trans named) same, rest⟩

/-- Wherever a run passes, the roster recalls the turns that it passed through. -/
theorem recalls_of_passes {config : Config} {g g' : Gateway}
    (opened : Gateway.ofConfig .builtin config = .ok g) {ts : List Turn} (passes : g.Passes ts g') :
    g'.Coherent ∧ g'.hall.court.roster.Recalls ts := by
  induction passes with
  | start =>
    have coherent := coherent_ofConfig opened
    obtain ⟨-, rfl⟩ := ofConfig_ok opened
    exact ⟨coherent, nofun⟩
  | quiet _ step ih => exact ⟨ih.1.step step, recalls_quiet ih.2 step⟩
  | turn _ live parsed ih =>
    obtain ⟨coherent, recalls⟩ := ih
    have next : Step (fun _ _ => True) _ _ := .turn live parsed trivial
    exact ⟨coherent.step next, recalls_turn recalls coherent live _⟩

end Gateway
end CourtroomGateway
