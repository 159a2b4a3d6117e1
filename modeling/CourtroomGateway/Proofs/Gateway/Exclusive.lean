import CourtroomGateway.Proofs.Gateway.Coherence

/-! No two clients of an area hold the same character. Outside of areas characters are not kept
apart, so what makes it true is that a client who enters an area lets go of a character that is
held there. -/

namespace CourtroomGateway

namespace Court

def Exclusive (c : Court) : Prop :=
  ∀ area a b charId, a ≠ b → a ∈ c.presence.clientsIn area → b ∈ c.presence.clientsIn area →
    0 ≤ charId → c.roster.charId? a = some charId → c.roster.charId? b ≠ some charId

end Court

namespace Scene

theorem taken_iff {s : Scene} (consistent : s.hall.court.presence.Consistent) (area : Nat)
    (charId : Int64) :
    s.taken area charId ↔ ∃ i, i ≠ s.client.id ∧
      s.hall.court.presence.areaOf i = some area ∧
      s.hall.court.roster.charId? i = some charId := by
  simp only [taken, Court.Roster.taken, List.any_eq_true, consistent.mem_clientsIn,
    Bool.and_eq_true, decide_eq_true_eq]
  constructor
  · rintro ⟨i, there, apart, holds⟩
    exact ⟨i, apart, there, holds⟩
  · rintro ⟨i, apart, there, holds⟩
    exact ⟨i, there, apart, holds⟩

theorem Spares.taken_iff {s t : Scene} (h : s.Spares t)
    (consistent : s.hall.court.presence.Consistent) (area : Nat) (charId : Int64) :
    t.taken area charId ↔ s.taken area charId := by
  rw [Scene.taken_iff consistent, Scene.taken_iff (h.consistent consistent), h.id]
  refine exists_congr fun i => and_congr_right fun apart => ?_
  rw [h.place i apart, Court.Roster.charId?, h.profile i apart]
  rfl

/-- Nobody else in the client's area holds the client's character. -/
def Alone (s : Scene) : Prop :=
  ∀ area, s.client.area = some area → 0 ≤ s.client.charId → ¬ s.taken area s.client.charId

theorem alone_of_exclusive {s : Scene} (consistent : s.hall.court.presence.Consistent)
    (own : s.client.Agrees s.hall) (exclusive : s.hall.court.Exclusive) : s.Alone := by
  intro area here playing taken
  obtain ⟨i, apart, there, holds⟩ := (taken_iff consistent area _).1 taken
  refine exclusive area s.client.id i s.client.charId apart.symm ?_ ?_ playing own.character holds
  · rw [consistent.mem_clientsIn, own.place, here]
  · rw [consistent.mem_clientsIn, there]

/-- A turn leaves the client alone with its character: a pick is checked against the area, and so
is a character that is carried into one. -/
theorem Turned.alone {s t : Scene} {p : Wire.Packet} (h : s.Turned p t)
    (consistent : s.hall.court.presence.Consistent) (alone : s.Alone) : t.Alone := by
  have spares := h.spares
  intro area here playing
  rw [spares.taken_iff consistent]
  cases h with
  | kept same =>
    rw [same.area] at here
    rw [same.charId] at playing ⊢
    exact alone area here playing
  | posed m decoded same =>
    rw [same.area] at here
    rw [same.charId] at playing ⊢
    exact alone area here playing
  | picked act decided same =>
    rw [same.area] at here
    rw [same.charId] at playing ⊢
    obtain ⟨-, ⟨watch, -⟩ | ⟨-, -, free⟩⟩ := Commands.Character.decide_eq_ok_iff.1 decided
    · simp only [setCharacter, watch] at playing
      exact absurd playing (by decide)
    · exact free area here
  | entered index place known same =>
    have here : index = area := by
      rw [same.area] at here
      exact Option.some.inj here
    rw [same.charId] at playing ⊢
    rcases s.releaseIfTaken_cases index with ⟨kept, free⟩ | released
    · simp only [join, kept] at playing ⊢
      exact here ▸ free playing
    · have watching : ((s.releaseIfTaken index).join index).client.charId = -1 := released.charId
      rw [watching] at playing
      exact absurd playing (by decide)

/-- Where one client is changed and is alone with its character, the others stay apart. -/
theorem exclusive_of_alone {s t : Scene} (spares : s.Spares t)
    (consistent : s.hall.court.presence.Consistent) (own : t.client.Agrees t.hall)
    (alone : t.Alone) (exclusive : s.hall.court.Exclusive) : t.hall.court.Exclusive := by
  have sound := spares.consistent consistent
  have apart_self (i area charId) (apart : i ≠ t.client.id)
      (here : t.hall.court.presence.areaOf t.client.id = some area)
      (there : t.hall.court.presence.areaOf i = some area) (playing : 0 ≤ charId)
      (holds : t.hall.court.roster.charId? t.client.id = some charId) :
      t.hall.court.roster.charId? i ≠ some charId := by
    intro other
    rw [own.place] at here
    rw [own.character, Option.some.injEq] at holds
    subst holds
    exact alone area here playing ((taken_iff sound area _).2 ⟨i, apart, there, other⟩)
  intro area a b charId apart ina inb playing holds other
  rw [sound.mem_clientsIn] at ina inb
  by_cases first : a = t.client.id
  · subst first
    exact apart_self b area charId apart.symm ina inb playing holds other
  by_cases second : b = t.client.id
  · subst second
    exact apart_self a area charId apart inb ina playing other holds
  rw [spares.id] at first second
  rw [Court.Roster.charId?, spares.profile _ first] at holds
  rw [Court.Roster.charId?, spares.profile _ second] at other
  refine exclusive area a b charId apart ?_ ?_ playing holds other
  · rw [consistent.mem_clientsIn, ← spares.place a first, ina]
  · rw [consistent.mem_clientsIn, ← spares.place b second, inb]

end Scene

namespace Gateway

/-- What keeps everyone's place and character, or takes someone away, keeps characters apart. -/
theorem exclusive_of_fewer {c c' : Court} (consistent : c.presence.Consistent)
    (consistent' : c'.presence.Consistent)
    (place : ∀ i area, c'.presence.areaOf i = some area → c.presence.areaOf i = some area)
    (character : ∀ i area charId, c'.presence.areaOf i = some area →
      c'.roster.charId? i = some charId → c.roster.charId? i = some charId)
    (exclusive : c.Exclusive) : c'.Exclusive := by
  intro area a b charId apart ina inb playing holds other
  rw [consistent'.mem_clientsIn] at ina inb
  refine exclusive area a b charId apart ?_ ?_ playing (character a area charId ina holds)
    (character b area charId inb other)
  · exact (consistent.mem_clientsIn area a).2 (place a area ina)
  · exact (consistent.mem_clientsIn area b).2 (place b area inb)

theorem exclusive_step {admits : Scene → Wire.Packet → Prop} {g g' : Gateway}
    (coherent : g.Coherent) (exclusive : g.hall.court.Exclusive) (step : Step admits g g') :
    g'.hall.court.Exclusive := by
  have consistent := coherent.consistent
  have consistent' := (coherent.step step).consistent
  cases step with
  | tend live framer bucket => exact exclusive
  | overflow live => exact exclusive
  | drop live => exact exclusive
  | collect id => exact exclusive
  | wait milliseconds => exact exclusive
  | @turn id session live message p parsed admitted =>
    rw [coherent.builtin]
    obtain ⟨-, own⟩ := coherent.own id session live
    have turned := (g.visit session).scene.turned_dispatch p
    have alone : (g.visit session).scene.Alone :=
      Scene.alone_of_exclusive consistent own exclusive
    exact Scene.exclusive_of_alone turned.spares consistent (turned.agrees own)
      (turned.alone consistent alone) exclusive
  | arrive transport now =>
    unfold arrive at *
    cases opened : g.hall.openSession transport now with
    | error refusal => exact exclusive
    | ok v =>
      simp only [opened] at consistent' ⊢
      obtain ⟨-, -, roster, presence, -, -⟩ := Hall.openSession_ok opened
      refine exclusive_of_fewer consistent consistent' ?_ ?_ exclusive
      · intro i area there
        rwa [presence] at there
      · intro i area charId there holds
        -- Who stands in an area was there before, so it is not the client that arrives.
        rw [presence] at there
        have before := coherent.fresh i (coherent.placed i area there)
        rwa [roster, Court.Roster.charId?, Court.Roster.find?_enrol,
          if_neg (Nat.ne_of_lt before)] at holds
  | depart id =>
    unfold depart at *
    cases live : g.sessions.find? id with
    | none => exact exclusive
    | some session =>
      simp only [live] at consistent' ⊢
      refine exclusive_of_fewer consistent consistent' ?_ ?_ exclusive
      · intro i area there
        simp only [Hall.presence_endSession, Court.Presence.areaOf_leave] at there
        split at there
        · cases there
        · exact there
      · intro i area charId there holds
        simp only [Hall.roster_endSession, Court.Roster.charId?, Court.Roster.find?_remove] at holds
        split at holds
        · cases holds
        · exact holds

/-- In every state of every run, the clients of an area hold different characters. -/
theorem characters_exclusive {config : Config} {g : Gateway}
    (opened : Gateway.ofConfig .builtin config = .ok g) (events : List Event) :
    (g.run events).hall.court.Exclusive := by
  have leads : Leads (fun _ _ => True) g (g.run events) :=
    g.leads_run events fun _ _ => trivial
  have start : g.hall.court.Exclusive := by
    rw [(ofConfig_ok opened).2]
    intro area a b charId apart ina
    cases ina
  have both := leads.keeps (fun g => g.Coherent ∧ g.hall.court.Exclusive)
    (fun _ _ before step => ⟨before.1.step step, exclusive_step before.1 before.2 step⟩)
    ⟨coherent_ofConfig opened, start⟩
  exact both.2

/-- Two clients pick the only character before they enter the only area. -/
def rivals : List Event :=
  [.arrive .tcp 0, .arrive .ws 0, feeds 0 "CC#0#0#%", feeds 1 "CC#0#0#%", feeds 0 "RD#%",
    feeds 1 "RD#%"]

theorem characters_exclusive_rivals :
    Gateway.ofConfig .builtin lobby = .ok opening ∧
      (opening.run rivals).hall.court.presence.clientsIn 0 = [0, 1] ∧
      (opening.run rivals).hall.court.roster.charId? 0 = some 0 ∧
      (opening.run rivals).hall.court.roster.charId? 1 ≠ some 0 := by
  have both : (opening.run rivals).hall.court.presence.clientsIn 0 = [0, 1] := by rfl
  have holds : (opening.run rivals).hall.court.roster.charId? 0 = some 0 := by rfl
  have first : 0 ∈ (opening.run rivals).hall.court.presence.clientsIn 0 := by simp [both]
  have second : 1 ∈ (opening.run rivals).hall.court.presence.clientsIn 0 := by simp [both]
  exact ⟨ofConfig_lobby, both, holds,
    characters_exclusive ofConfig_lobby rivals 0 0 1 0 (by decide) first second (by decide) holds⟩

end Gateway
end CourtroomGateway
