import CourtroomGateway.Proofs.Gateway.Coherence

/-! What is held of a client in several places is held alike in all of them. The roster lists the
clients with a session and no others, each session knows the character and the area that the court
holds of its client, presence lists nobody else, and the players that the metrics report for an
area are the sessions there. -/

namespace CourtroomGateway

theorem Config.character?_isSome_iff (c : Config) (id : Int64) :
    (c.character? id).isSome ↔ 0 ≤ id ∧ id.toInt.toNat < c.characters.length := by
  unfold character?
  split
  next below =>
    have outside : ¬ 0 ≤ id := Int64.not_le.2 below
    simp [outside]
  next above =>
    have inside : 0 ≤ id := Int64.not_lt.1 above
    simp [inside]

namespace Gateway

/-- The number of live sessions whose client knows itself to be in the area. -/
def population (g : Gateway) (area : Nat) : Nat :=
  g.sessions.entries.countP fun e => e.2.client.area = some area

/-- The series under which the metrics report the players of an area. -/
def playersSeries (a : Area) : String :=
  "aoprism_area_players\x7barea=\"" ++ String.ofList (a.name.toList.filter (· ≠ '"')) ++ "\"\x7d"

/-- The roster, presence and the sessions say the same of every client. -/
structure InAccord (g : Gateway) : Prop where
  enrolled : g.hall.court.roster.ids = g.sessions.keys
  named : ∀ id session, g.sessions.find? id = some session → session.client.id = id
  character : ∀ id session, g.sessions.find? id = some session →
    g.hall.court.roster.charId? id = some session.client.charId
  characterKnown : ∀ id session, g.sessions.find? id = some session →
    session.client.charId = -1 ∨
      0 ≤ session.client.charId ∧
        session.client.charId.toInt.toNat < g.hall.config.characters.length
  place : ∀ id session, g.sessions.find? id = some session →
    g.hall.court.presence.areaOf id = session.client.area
  areaKnown : ∀ id session, g.sessions.find? id = some session →
    ∀ area, session.client.area = some area → area < g.hall.config.areas.length
  listed : ∀ area, ∀ id ∈ g.hall.court.presence.clientsIn area, g.sessions.contains id
  counted : g.hall.samples =
    ("aoprism_players", g.sessions.size) ::
      g.hall.config.areas.mapIdx fun i a => (playersSeries a, g.population i)

/-- Presence lists a client in an area just when its session knows itself to be there. -/
theorem Coherent.mem_clientsIn_iff {g : Gateway} (h : g.Coherent) (area id : Nat) :
    id ∈ g.hall.court.presence.clientsIn area ↔
      ∃ session, g.sessions.find? id = some session ∧ session.client.area = some area := by
  rw [h.consistent.mem_clientsIn]
  constructor
  · intro there
    have seated : g.sessions.contains id := h.seated id ▸ h.placed id area there
    obtain ⟨session, live⟩ := Option.isSome_iff_exists.1 seated
    obtain ⟨named, agrees⟩ := h.own id session live
    exact ⟨session, live, by rw [← agrees.place, named, there]⟩
  · rintro ⟨session, live, here⟩
    obtain ⟨named, agrees⟩ := h.own id session live
    rw [← here, ← agrees.place, named]

theorem Coherent.ids_eq_keys {g : Gateway} (h : g.Coherent) :
    g.hall.court.roster.ids = g.sessions.keys :=
  Table.keys_eq_of_contains h.seated

theorem Coherent.players_eq_size {g : Gateway} (h : g.Coherent) :
    g.hall.players = g.sessions.size := by
  have ids := congrArg List.length h.ids_eq_keys
  rwa [Court.Roster.ids, Table.keys, Table.keys, List.length_map, List.length_map] at ids

/-- Presence lists every client of an area once, so that it counts the sessions there. -/
theorem Coherent.countIn_eq_population {g : Gateway} (h : g.Coherent) (area : Nat) :
    g.hall.court.presence.countIn area = g.population area := by
  let present := g.sessions.entries.filter fun e => e.2.client.area = some area
  have unique : (present.map (·.1)).Nodup :=
    g.sessions.nodup_keys.sublist (List.filter_sublist.map _)
  have same : (g.hall.court.presence.clientsIn area).Perm (present.map (·.1)) := by
    refine (List.perm_ext_iff_of_nodup (Table.nodup_keys _) unique).2 fun id => ?_
    refine (h.mem_clientsIn_iff area id).trans ?_
    simp [present, Table.mem_entries_iff]
  calc g.hall.court.presence.countIn area
      = (g.hall.court.presence.clientsIn area).length := (List.length_map _).symm
    _ = (present.map (·.1)).length := same.length_eq
    _ = g.population area := by rw [List.length_map, population, List.countP_eq_length_filter]

theorem Coherent.inAccord {g : Gateway} (h : g.Coherent) : g.InAccord where
  enrolled := h.ids_eq_keys
  named id session live := (h.own id session live).1
  character id session live := by
    obtain ⟨named, agrees⟩ := h.own id session live
    rw [← named, agrees.character]
  characterKnown id session live := by
    obtain ⟨-, agrees⟩ := h.own id session live
    exact agrees.characterKnown.imp_right (Config.character?_isSome_iff _ _).1
  place id session live := by
    obtain ⟨named, agrees⟩ := h.own id session live
    rw [← named, agrees.place]
  areaKnown id session live := (h.own id session live).2.areaKnown
  listed area id mem := by
    obtain ⟨session, live, -⟩ := (h.mem_clientsIn_iff area id).1 mem
    rw [Table.contains, live]
    rfl
  counted := by
    rw [Hall.samples, h.players_eq_size]
    refine congrArg _ (List.mapIdx_eq_mapIdx_iff.2 fun i _ => ?_)
    rw [h.countIn_eq_population]
    rfl

theorem config_step {admits : Scene → Wire.Packet → Prop} {g g' : Gateway} (h : g.Coherent)
    (step : Step admits g g') : g'.hall.config = g.hall.config := by
  cases step with
  | tend live framer bucket => rfl
  | overflow live => rfl
  | drop live => rfl
  | collect id => rfl
  | wait milliseconds => rfl
  | @turn id session live message p parsed admitted =>
    rw [h.builtin]
    exact ((g.visit session).scene.turned_dispatch p).spares.config
  | arrive transport now =>
    unfold arrive
    cases opened : g.hall.openSession transport now with
    | error refusal => rfl
    | ok v => exact (Hall.openSession_ok opened).2.1
  | depart id =>
    unfold depart
    cases live : g.sessions.find? id <;> rfl

/-- In every state of every run the roster, presence and the sessions agree, under the
configuration that the gateway was opened with. -/
theorem inAccord_run {config : Config} {g : Gateway}
    (opened : Gateway.ofConfig .builtin config = .ok g) (events : List Event) :
    (g.run events).hall.config = config ∧ (g.run events).InAccord := by
  have leads : Leads (fun _ _ => True) g (g.run events) :=
    g.leads_run events fun _ _ => trivial
  have start : g.Coherent ∧ g.hall.config = config :=
    ⟨coherent_ofConfig opened, by rw [(ofConfig_ok opened).2]⟩
  obtain ⟨coherent, same⟩ := leads.keeps (fun g => g.Coherent ∧ g.hall.config = config)
    (fun _ _ held step => ⟨held.1.step step, (config_step held.1 step).trans held.2⟩) start
  exact ⟨same, coherent.inAccord⟩

/-- A character is picked before the door, lost on entering an area where it is held, and an area
is left for another and by departing. -/
def comings : List Event :=
  [.arrive .tcp 0, .arrive .ws 0, .arrive .ws 0, feeds 0 "CC#0#1#%", feeds 1 "CC#0#1#%",
    feeds 0 "RD#%", feeds 1 "RD#%", feeds 2 "RD#%", feeds 1 "MC#Courtroom#0#%", .depart 2]

theorem inAccord_run_comings :
    Gateway.ofConfig .builtin courthouse = .ok doors ∧
      (doors.run comings).hall.config = courthouse ∧ (doors.run comings).InAccord ∧
      (doors.run comings).sessions.keys = [0, 1] ∧
      (doors.run comings).hall.samples =
        [("aoprism_players", 2), ("aoprism_area_players\x7barea=\"Lobby\"\x7d", 1),
          ("aoprism_area_players\x7barea=\"Courtroom\"\x7d", 1)] := by
  obtain ⟨same, accord⟩ := inAccord_run ofConfig_courthouse comings
  have keys : (doors.run comings).sessions.keys = [0, 1] := by rfl
  exact ⟨ofConfig_courthouse, same, accord, keys, by rfl⟩

end Gateway
end CourtroomGateway
