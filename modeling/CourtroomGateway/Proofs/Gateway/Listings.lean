import CourtroomGateway.Proofs.Gateway.Deliveries
import CourtroomGateway.Proofs.Wire.Escape

/-! Names that are sent back as they were listed. Areas and tracks are listed in escaped form, and a
client names one by sending its entry back. An entry stands for the name it was made from unless
that name contains a token; then it is read as another name, which may be nobody's or that of
another entry. -/

namespace CourtroomGateway

theorem Wire.unescape_escape_of_tokenFree {text : String} (free : TokenFree text) :
    unescape (escape text) = text := unescape_escape_eq_iff.2 free

theorem Wire.escape_unescape_escape (text : String) :
    escape (unescape (escape text)) = escape text :=
  escape_unescape_of_not_mem (not_mem_escape text)

/-- The name is that of a track and of no area. -/
def Config.Plays (c : Config) (name : String) : Prop :=
  name ∈ c.music ∧ ∀ a ∈ c.areas, a.name ≠ name

namespace Commands

theorem Joining.args_musicPacket (c : Config) :
    (musicPacket c).args = (c.areas.map (·.name) ++ c.music).map Wire.escape := by
  rw [List.map_append]
  rfl

theorem Joining.getElem?_musicPacket_of_area {c : Config} {number : Nat} {area : Area}
    (known : c.areas[number]? = some area) :
    (musicPacket c).args[number]? = some (Wire.escape area.name) := by
  have inside : number < c.areas.length := (List.getElem?_eq_some_iff.1 known).1
  rw [args_musicPacket, List.getElem?_map, List.getElem?_append_left (by simpa using inside),
    List.getElem?_map, known]
  rfl

theorem Joining.getElem?_musicPacket_of_track {c : Config} {number : Nat} {track : String}
    (known : c.music[number]? = some track) :
    (musicPacket c).args[c.areas.length + number]? = some (Wire.escape track) := by
  rw [args_musicPacket, List.getElem?_map, List.getElem?_append_right (by simp), List.length_map,
    Nat.add_sub_cancel_left, known]
  rfl

/-- The name of an area leads into it. -/
theorem Music.decide_of_found {s : Scene} {p : Wire.Packet} {raw : String} {index : Nat}
    {area : Area} (sent : p.args.head? = some raw)
    (found : s.hall.config.areaIndex? (Wire.unescape raw) = some index)
    (known : s.hall.config.areas[index]? = some area) :
    decide s p = .ok (if s.client.area = some index then .stay else .move index area) := by
  obtain ⟨rest, args⟩ := List.head?_eq_some_iff.1 sent
  simp only [decide, args, found, known]
  split <;> rfl

end Commands

/-- The area that a client is in when it has sent a name. -/
theorem Scene.area_dispatch_music {s : Scene} {p : Wire.Packet} {raw : String}
    (clean : s.hall.config.fault? = none) (command : p.command = "MC")
    (sent : p.args.head? = some raw) :
    (Handlers.builtin.dispatch s p).scene.client.area =
      (s.hall.config.areaIndex? (Wire.unescape raw)).or s.client.area := by
  have asked : s.request p = (Commands.Music.decide s p).map .music := by
    rw [request, if_pos command]
    rfl
  rw [Handlers.dispatch_builtin, asked]
  cases found : s.hall.config.areaIndex? (Wire.unescape raw) with
  | some index =>
    obtain ⟨area, known, -⟩ := (Config.areaIndex?_eq_some_iff clean).1 found
    rw [Commands.Music.decide_of_found sent found known, Except.map, Handlers.answer,
      (alike_recordDuration _ _ _).area]
    split
    next here => exact here
    next => exact (s.alike_enter index area []).area
  | none =>
    cases decided : Commands.Music.decide s p with
    | error refusal => exact (s.alike_refuse p refusal).area
    | ok act =>
      obtain ⟨area, track, showname, rfl⟩ :=
        Commands.Music.decide_of_missing sent found decided
      rw [Except.map, Handlers.answer, (alike_recordDuration _ _ _).area]
      exact (s.alike_publishLossy _ _).area

namespace Gateway

/-- The packet is passed on in the area as a track with the same entry. -/
def Replays (g : Gateway) (session : Session) (p : Wire.Packet) (area : Nat) : Prop :=
  ∃ packet, (g.visit session).scene.Broadcasts p area packet ∧
    g.Delivered area packet.toWire (g.courtAfter session p) ∧
    packet.command = "MC" ∧ packet.args.head? = p.args.head?

section Listed
variable {config : Config} {g : Gateway} (reached : Reached config g) {id : Nat}
  {session : Session} {p : Wire.Packet} (command : p.command = "MC")
include reached command

/-- Sending the entry of an area that the client is not in brings it there exactly if the entry
stands for the name of the area. -/
theorem entered_iff (live : g.sessions.find? id = some session) {number : Nat} {area : Area}
    (known : config.areas[number]? = some area)
    (sent : p.args.head? = some (Wire.escape area.name))
    (outside : session.client.area ≠ some number) :
    (g.afterTurn id session p).Attends number id ∧
        (g.afterTurn id session p).hall.court.presence.areaOf id = some number ↔
      Wire.TokenFree area.name := by
  obtain ⟨rfl, clean⟩ := reached.config_eq
  have coherent := reached.sound.1.afterTurn live p
  have moved : (g.handlers.dispatch (g.visit session).scene p).scene.client.area =
      (g.hall.config.areaIndex? (Wire.unescape (Wire.escape area.name))).or
        session.client.area := by
    rw [reached.sound.1.builtin]
    exact Scene.area_dispatch_music (s := (g.visit session).scene) clean command sent
  have attends : (g.afterTurn id session p).Attends number id ↔
      (g.handlers.dispatch (g.visit session).scene p).scene.client.area = some number := by
    simp only [Attends, afterTurn, live_after, Option.some.injEq, exists_eq_left']
    rfl
  have placed : (g.afterTurn id session p).Attends number id →
      (g.afterTurn id session p).hall.court.presence.areaOf id = some number := fun there =>
    (coherent.consistent.mem_clientsIn number id).1
      ((coherent.mem_clientsIn_iff number id).2 there)
  rw [and_iff_left_of_imp placed, attends, moved, Option.or_eq_some_iff,
    ← Wire.unescape_escape_eq_iff]
  constructor
  · rintro (found | ⟨-, stayed⟩)
    · obtain ⟨a, here, named⟩ := (Config.areaIndex?_eq_some_iff clean).1 found
      cases known.symm.trans here
      exact named.symm
    · exact absurd stayed outside
  · intro same
    exact .inl ((Config.areaIndex?_eq_some_iff clean).2 ⟨area, known, same.symm⟩)

/-- Sending the entry of a track has it played under the same entry exactly if the entry stands for
a track and for no area. -/
theorem replays_iff {track : String} (sent : p.args.head? = some (Wire.escape track)) {area : Nat}
    (here : session.client.area = some area) (plays : 0 ≤ session.client.charId) :
    g.Replays session p area ↔ config.Plays (Wire.unescape (Wire.escape track)) := by
  obtain ⟨rfl, -⟩ := reached.config_eq
  constructor
  · rintro ⟨packet, broadcasts, -, music, -⟩
    cases broadcasts with
    | speech speech => exact absurd (command.symm.trans speech) (by decide)
    | chat chat => exact absurd (command.symm.trans chat) (by decide)
    | track _ _ asked noArea offered =>
      rw [sent] at asked
      obtain rfl := Option.some.inj asked
      exact ⟨offered, noArea⟩
  · rintro ⟨offered, noArea⟩
    have asked : p.args.head?.map Wire.unescape = some (Wire.unescape (Wire.escape track)) := by
      rw [sent, Option.map_some]
    have broadcasts := Scene.Broadcasts.track (s := (g.visit session).scene) command here asked
      noArea offered plays
    refine ⟨_, broadcasts, reached.sound.1.delivered broadcasts, rfl, ?_⟩
    rw [sent]
    exact congrArg some (Wire.escape_unescape_escape track)

end Listed

/-- In every state that can be reached, a client may send back an entry of the list of areas and
tracks as it stands there. The entry of an area it is not in leads it there exactly if the name of
the area contains no token. The entry of a track whose name no area has is played to the client's
area under the same entry if the name contains no token; if it does contain one, then exactly if
the name that it is read as is that of a track, too, and of no area. -/
theorem listed_names_return {config : Config} {g : Gateway} (reached : Reached config g) {id : Nat}
    {session : Session} (live : g.sessions.find? id = some session) {p : Wire.Packet}
    (command : p.command = "MC") :
    (∀ number area, config.areas[number]? = some area →
        p.args.head? = (Commands.Joining.musicPacket config).args[number]? →
        session.client.area ≠ some number →
        ((g.afterTurn id session p).Attends number id ∧
            (g.afterTurn id session p).hall.court.presence.areaOf id = some number ↔
          Wire.TokenFree area.name)) ∧
      ∀ number track here, config.music[number]? = some track → config.Plays track →
        p.args.head? =
          (Commands.Joining.musicPacket config).args[config.areas.length + number]? →
        session.client.area = some here → ¬ session.client.isSpectator →
        (g.Replays session p here ↔
          Wire.TokenFree track ∨ config.Plays (Wire.unescape (Wire.escape track))) := by
  refine ⟨fun number area known sent outside => ?_,
    fun number track here known plain sent inside plays => ?_⟩
  · rw [Commands.Joining.getElem?_musicPacket_of_area known] at sent
    exact entered_iff reached command live known sent outside
  · rw [Commands.Joining.getElem?_musicPacket_of_track known] at sent
    have playing : 0 ≤ session.client.charId := Client.not_isSpectator_iff.1 plays
    rw [replays_iff reached command sent inside playing]
    refine ⟨.inr, ?_⟩
    rintro (free | stands)
    · rwa [Wire.unescape_escape_of_tokenFree free]
    · exact stands

/-- Names with reserved characters beside names that are tokens. -/
def annex : Config where
  version := 1
  characters := ["Phoenix"]
  music := ["Trial #2", "<and>"]
  areas := [{ name := "Lobby" }, { name := "R&D" }, { name := "<num>" }]

/-- The gateway of `annex` with one player, in the first area. -/
def annexed : Gateway :=
  { handlers := .builtin, hall := { config := annex } : Gateway }.run
    [.arrive .tcp 0, feeds 0 "CC#0#0#%RD#%RM#%"]

theorem reached_annexed : Reached annex annexed :=
  reached_run (show Gateway.ofConfig .builtin annex = .ok _ from rfl) _

theorem listed_names_return_annexed :
    Reached annex annexed ∧ ∃ session, annexed.sessions.find? 0 = some session ∧
      (annexed.afterTurn 0 session ⟨"MC", ["R<and>D", "0"]⟩).Attends 1 0 ∧
      annexed.Replays session ⟨"MC", ["Trial <num>2", "0"]⟩ 0 := by
  have evaluated : ((annexed.sessions.find? 0).map fun session =>
      (session.client.area, session.client.isSpectator)) = some (some 0, false) := by
    decide +kernel
  obtain ⟨session, live, all⟩ := Option.map_eq_some_iff.1 evaluated
  obtain ⟨here, plays⟩ := Prod.mk.inj all
  obtain ⟨areas, -⟩ := listed_names_return reached_annexed live (p := ⟨"MC", ["R<and>D", "0"]⟩) rfl
  obtain ⟨-, tracks⟩ :=
    listed_names_return reached_annexed live (p := ⟨"MC", ["Trial <num>2", "0"]⟩) rfl
  refine ⟨reached_annexed, session, live, ?_, ?_⟩
  · exact ((areas 1 { name := "R&D" } rfl (by decide) (by rw [here]; decide)).2 (by decide)).1
  · refine (tracks 0 "Trial #2" 0 rfl ⟨by decide, by decide⟩ (by decide) here ?_).2 (.inl ?_)
    · rw [plays]
      decide
    · decide

/-- The third area is listed as a token, and whoever sends it back stays where it was. -/
theorem exists_listed_not_entered :
    Reached annex annexed ∧ annex.areas[2]? = some { name := "<num>" } ∧
      (Commands.Joining.musicPacket annex).args[2]? = some "<num>" ∧
      annexed.hall.court.presence.areaOf 0 = some 0 ∧
      (annexed.run [feeds 0 "MC#<num>#0#%"]).hall.court.presence.areaOf 0 = some 0 := by
  refine ⟨reached_annexed, rfl, by decide, by decide +kernel, by decide +kernel⟩

end Gateway
end CourtroomGateway
