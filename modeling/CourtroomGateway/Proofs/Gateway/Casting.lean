import CourtroomGateway.Proofs.Gateway.Ownership

/-! Who plays whom. A client gets the character that it picks unless another one in its area holds
it, and has to let go of its character where it enters an area in which another one holds it. In no
other way does the character of a connected client change. -/

namespace CourtroomGateway

theorem Config.character?_eq_some_iff {c : Config} {id : Int64} {folder : String} :
    c.character? id = some folder ↔ 0 ≤ id ∧ c.characters[id.toInt.toNat]? = some folder := by
  unfold character?
  split
  next below => simp [Int64.not_le.2 below]
  next above => simp [Int64.not_lt.1 above]

namespace Scene

/-- Another client in the area holds the character. -/
def Rivalled (s : Scene) (area : Nat) (charId : Int64) : Prop :=
  ∃ i, i ≠ s.client.id ∧ s.hall.court.presence.areaOf i = some area ∧
    s.hall.court.roster.charId? i = some charId

/-- The packet picks what the client may have: no character, or one of the configuration that
nobody else in the client's area holds. -/
structure Picks (s : Scene) (p : Wire.Packet) (charId : Int64) (folder : String) : Prop where
  command : p.command = "CC"
  asked : p.args[1]?.bind Text.integer? = some charId
  free : charId = -1 ∧ folder = "" ∨
    0 ≤ charId ∧ s.hall.config.characters[charId.toInt.toNat]? = some folder ∧
      ∀ area, s.client.area = some area → ¬ s.Rivalled area charId

/-- The packet brings the client into the area, which is answered with these packets first: joining
leads into the first area, and the name of any area leads there from elsewhere. -/
inductive Enters (s : Scene) (p : Wire.Packet) : Nat → Area → List Wire.Packet → Prop
  | first {area : Area} (command : p.command = "RD")
      (known : s.hall.config.areas[0]? = some area) : Enters s p 0 area [.named "DONE"]
  | other {index : Nat} {area : Area} (command : p.command = "MC")
      (named : p.args.head?.map Wire.unescape = some area.name)
      (known : s.hall.config.areas[index]? = some area) (outside : s.client.area ≠ some index) :
      Enters s p index area []

/-- The client plays a character that another one in the area holds. -/
def Clashes (s : Scene) (area : Nat) : Prop :=
  0 ≤ s.client.charId ∧ s.Rivalled area s.client.charId

/-- The packet neither picks a character nor brings the client where its own is held. -/
structure LeavesCharacter (s : Scene) (p : Wire.Packet) : Prop where
  unpicked : ∀ charId folder, ¬ s.Picks p charId folder
  unclashed : ∀ index area lead, s.Enters p index area lead → ¬ s.Clashes index

section Sound
variable {s : Scene} (consistent : s.hall.court.presence.Consistent)
include consistent

theorem yields_iff_clashes (area : Nat) : s.Yields area ↔ s.Clashes area :=
  and_congr Client.not_isSpectator_iff (taken_iff consistent area s.client.charId)

theorem request_character_iff {p : Wire.Packet} {charId : Int64} {folder : String} :
    s.request p = .ok (.character ⟨charId, folder⟩) ↔ s.Picks p charId folder := by
  have free (area : Nat) : ¬ s.taken area charId ↔ ¬ s.Rivalled area charId :=
    not_congr (taken_iff consistent area charId)
  rw [request_eq_ok_iff, Request.Decided, Commands.Character.decide_eq_ok_iff]
  simp only [Config.character?_eq_some_iff, free]
  constructor
  · rintro ⟨command, asked, watch | ⟨-, ⟨plays, known⟩, alone⟩⟩
    · exact ⟨command, asked, .inl watch⟩
    · exact ⟨command, asked, .inr ⟨plays, known, alone⟩⟩
  · rintro ⟨command, asked, watch | ⟨plays, known, alone⟩⟩
    · exact ⟨command, asked, .inl watch⟩
    · refine ⟨command, asked, .inr ⟨?_, ⟨plays, known⟩, alone⟩⟩
      rintro rfl
      exact absurd plays (by decide)

/-- Of the packets that pick a character, just those are granted that pick a free one. -/
theorem granted_character_iff {p : Wire.Packet} (command : p.command = "CC") :
    (Handlers.builtin.dispatch s p).outcome = .done ↔ ∃ charId folder, s.Picks p charId folder := by
  simp only [← request_character_iff consistent, Handlers.dispatch_builtin]
  cases asked : s.request p with
  | error refusal => simp [Handlers.answer]
  | ok request =>
    have decided := decided_of_request asked
    have apart : "CC" ∉ Handlers.joiningCommands := by decide
    cases request with
    | character act => simpa [Handlers.answer] using ⟨act.charId, act.folder, rfl⟩
    | joining act => exact absurd (command ▸ decided.1) apart
    | speaking act => exact absurd (command.symm.trans decided.1) (by decide)
    | chatting act => exact absurd (command.symm.trans decided.1) (by decide)
    | music act => exact absurd (command.symm.trans decided.1) (by decide)

/-- A turn recasts the client in these two ways only. -/
theorem LeavesCharacter.not_recasts {p : Wire.Packet} (leaves : s.LeavesCharacter p) :
    ¬ s.Recasts p := by
  rintro ⟨request, asked, recasts⟩
  have decided := decided_of_request asked
  cases request with
  | character act => exact leaves.unpicked _ _ ((request_character_iff consistent).1 asked)
  | speaking act => cases recasts
  | chatting act => cases recasts
  | joining act =>
    cases act with
    | enter area =>
      obtain ⟨command, known⟩ := Commands.Joining.decide_enter_iff.1 decided.2
      exact leaves.unclashed _ _ _ (.first command known)
        ((yields_iff_clashes consistent 0).1 recasts)
    | _ => cases recasts
  | music act =>
    cases act with
    | move index area =>
      obtain ⟨command, decided⟩ := decided
      obtain ⟨⟨name, sent, found⟩, known, outside⟩ := Commands.Music.decide_move_iff.1 decided
      obtain ⟨a, there, rfl⟩ := Config.exists_of_areaIndex? found
      cases known.symm.trans there
      exact leaves.unclashed _ _ _ (.other command sent known outside)
        ((yields_iff_clashes consistent index).1 recasts)
    | _ => cases recasts

end Sound

theorem dispatch_of_enters {s : Scene} (clean : s.hall.config.fault? = none) {p : Wire.Packet}
    {index : Nat} {area : Area} {lead : List Wire.Packet} (enters : s.Enters p index area lead) :
    Handlers.builtin.dispatch s p =
      ⟨Handlers.recordDuration p.command s.hall.clock (s.enter index area lead), .done⟩ := by
  rw [Handlers.dispatch_builtin]
  cases enters with
  | first command known =>
    have asked : s.request p = .ok (.joining (.enter area)) :=
      request_eq_ok_iff.2 ⟨command ▸ by decide,
        Commands.Joining.decide_enter_iff.2 ⟨command, known⟩⟩
    rw [asked]
    rfl
  | other command named known outside =>
    have found := (Config.areaIndex?_eq_some_iff clean).2 ⟨area, known, rfl⟩
    have asked : s.request p = .ok (.music (.move index area)) :=
      request_eq_ok_iff.2 ⟨command,
        Commands.Music.decide_move_iff.2 ⟨⟨area.name, named, found⟩, known, outside⟩⟩
    rw [asked]
    rfl

/-- A client that is told to let go of its character is told so before all else. -/
theorem releasePackets_eq (s : Scene) (area : Nat) :
    (s.Yields area → s.releasePackets area =
        [⟨"PV", [Text.decimalNat s.client.id, "CID", "-1"]⟩]) ∧
      (¬ s.Yields area → s.releasePackets area = []) := by
  have watches : Text.decimal (-1) = "-1" := by decide
  unfold releasePackets
  split
  next watching => exact ⟨fun yields => absurd watching yields.1, fun _ => rfl⟩
  split
  next playing taken =>
    refine ⟨fun _ => ?_, fun keeps => absurd ⟨playing, taken⟩ keeps⟩
    rw [← watches]
    rfl
  next free => exact ⟨fun yields => absurd yields.2 free, fun _ => rfl⟩

theorem roster_of_not_done {s : Scene} {p : Wire.Packet}
    (denied : (Handlers.builtin.dispatch s p).outcome ≠ .done) :
    (Handlers.builtin.dispatch s p).scene.hall.court.roster = s.hall.court.roster := by
  rw [Handlers.dispatch_builtin] at denied ⊢
  cases asked : s.request p with
  | error refusal => exact (s.alike_refuse p refusal).roster
  | ok request => simp [asked, Handlers.answer] at denied

theorem mail_enter_eq (s : Scene) (index : Nat) (area : Area) (lead : List Wire.Packet) :
    (s.Yields index → (s.enter index area lead).hall.court.mail =
        (s.hall.court.postEach s.client.id
          ((⟨"PV", [Text.decimalNat s.client.id, "CID", "-1"]⟩ ::
            (lead ++ areaPackets area)).map (·.toWire))).mail) ∧
      (¬ s.Yields index → (s.enter index area lead).hall.court.mail =
        (s.hall.court.postEach s.client.id
          ((lead ++ areaPackets area).map (·.toWire))).mail) := by
  rw [mail_enter]
  refine ⟨fun yields => ?_, fun keeps => ?_⟩
  · rw [(s.releasePackets_eq index).1 yields, List.singleton_append]
  · rw [(s.releasePackets_eq index).2 keeps, List.nil_append]

end Scene

namespace Gateway

/-- The roster holds this profile of the client, and its session knows the character. -/
structure Plays (g : Gateway) (id : Nat) (profile : Court.Profile) : Prop where
  listed : g.hall.court.roster.find? id = some profile
  known : ∃ session, g.sessions.find? id = some session ∧
    session.client.charId = profile.charId

theorem Coherent.plays {g : Gateway} (h : g.Coherent) {id : Nat} {profile : Court.Profile}
    (listed : g.hall.court.roster.find? id = some profile) : g.Plays id profile := by
  have seated : g.sessions.contains id := by
    rw [← h.seated, Court.Roster.contains, listed]
    rfl
  obtain ⟨session, live⟩ := Option.isSome_iff_exists.1 seated
  obtain ⟨rfl, agrees⟩ := h.own id session live
  have character := agrees.character
  rw [Court.Roster.charId?, listed] at character
  exact ⟨listed, session, live, (Option.some.inj character).symm⟩

theorem Coherent.exists_plays {g : Gateway} (h : g.Coherent) {id : Nat} {session : Session}
    (live : g.sessions.find? id = some session) : ∃ profile, g.Plays id profile := by
  obtain ⟨rfl, agrees⟩ := h.own id session live
  obtain ⟨profile, listed, -⟩ := Option.map_eq_some_iff.1 agrees.character
  exact ⟨profile, h.plays listed⟩

section Turn
variable (g : Gateway) (id : Nat) (session : Session) (profile : Court.Profile) (p : Wire.Packet)

/-- What becomes of a packet that asks for a character, where the client had this profile before. -/
structure Cast : Prop where
  granted : (g.handlers.dispatch (g.visit session).scene p).outcome = .done ↔
    ∃ charId folder, (g.visit session).scene.Picks p charId folder
  picked : ∀ charId folder, (g.visit session).scene.Picks p charId folder →
    (g.afterTurn id session p).Plays id ⟨charId, .idle folder⟩
  kept : (∀ charId folder, ¬ (g.visit session).scene.Picks p charId folder) →
    (g.afterTurn id session p).Plays id profile

/-- What becomes of a client that enters the area and had this profile before: it is granted, and
it is answered with these packets. -/
structure Seated (index : Nat) (packets : List Wire.Packet) : Prop where
  granted : (g.handlers.dispatch (g.visit session).scene p).outcome = .done
  released : (g.visit session).scene.Clashes index →
    (g.afterTurn id session p).Plays id ⟨-1, {}⟩ ∧
      (g.courtAfter session p).mail = (g.hall.court.postEach id
        ((⟨"PV", [Text.decimalNat id, "CID", "-1"]⟩ :: packets).map (·.toWire))).mail
  kept : ¬ (g.visit session).scene.Clashes index →
    (g.afterTurn id session p).Plays id profile ∧
      (g.courtAfter session p).mail =
        (g.hall.court.postEach id (packets.map (·.toWire))).mail

end Turn

section Live
variable {g : Gateway} (coherent : g.Coherent) {id : Nat} {session : Session}
  (live : g.sessions.find? id = some session) {profile : Court.Profile}
  (listed : g.hall.court.roster.find? id = some profile) {p : Wire.Packet}
include coherent live

/-- The profile after a turn is read off the roster that the turn leaves. -/
theorem Coherent.plays_afterTurn {after : Court.Profile}
    (found : (Handlers.builtin.dispatch (g.visit session).scene p).scene.hall.court.roster.find?
      id = some after) : (g.afterTurn id session p).Plays id after := by
  refine (coherent.afterTurn live p).plays ?_
  rw [Gateway.afterTurn, coherent.builtin]
  exact found

include listed

theorem Coherent.cast (command : p.command = "CC") : g.Cast id session profile p := by
  obtain ⟨named, -⟩ := coherent.own id session live
  have consistent : (g.visit session).scene.hall.court.presence.Consistent := coherent.consistent
  have granted := Scene.granted_character_iff consistent command
  constructor
  · rw [coherent.builtin]
    exact granted
  · intro charId folder picks
    have asked := (Scene.request_character_iff consistent).2 picks
    refine coherent.plays_afterTurn live ?_
    have roster : (Handlers.builtin.dispatch (g.visit session).scene p).scene.hall.court.roster =
        g.hall.court.roster.setCharacter session.client.id charId (.idle folder) := by
      rw [Handlers.dispatch_builtin, asked]
      rfl
    rw [roster, Court.Roster.find?_setCharacter, if_pos named.symm, listed]
    rfl
  · intro unpicked
    refine coherent.plays_afterTurn live ?_
    rw [Scene.roster_of_not_done fun done => ?_]
    · exact listed
    · obtain ⟨charId, folder, picks⟩ := granted.1 done
      exact unpicked charId folder picks

theorem Coherent.seated_of_enters (clean : g.hall.config.fault? = none) {index : Nat}
    {area : Area} {lead : List Wire.Packet}
    (enters : (g.visit session).scene.Enters p index area lead) :
    g.Seated id session profile p index (lead ++ Scene.areaPackets area) := by
  obtain ⟨named, -⟩ := coherent.own id session live
  let s := (g.visit session).scene
  have named : s.client.id = id := named
  have dispatched := Scene.dispatch_of_enters (s := s) clean enters
  have roster := (s.alike_enter index area lead).roster
  have yields : s.Yields index ↔ s.Clashes index :=
    Scene.yields_iff_clashes coherent.consistent index
  obtain ⟨yielded, stayed⟩ := s.roster_releaseIfTaken index
  obtain ⟨told, untold⟩ := s.mail_enter_eq index area lead
  rw [named] at yielded told untold
  constructor
  · rw [coherent.builtin, dispatched]
  · intro clashes
    have lets := yields.2 clashes
    refine ⟨coherent.plays_afterTurn live ?_, ?_⟩
    · rw [dispatched]
      refine (congrArg (·.find? id) (roster.trans (yielded lets))).trans ?_
      rw [Court.Roster.find?_setCharacter, if_pos rfl]
      exact Option.map_eq_some_iff.2 ⟨profile, listed, rfl⟩
    · rw [courtAfter, coherent.builtin, dispatched]
      exact told lets
  · intro apart
    have keeps := mt yields.1 apart
    refine ⟨coherent.plays_afterTurn live ?_, ?_⟩
    · rw [dispatched]
      exact (congrArg (·.find? id) (roster.trans (stayed keeps))).trans listed
    · rw [courtAfter, coherent.builtin, dispatched]
      exact untold keeps

end Live

/-- A step in which a client neither picks a character nor has to let go of its own leaves it with
that character, or is its departure. -/
theorem charId_step {g g' : Gateway} (coherent : g.Coherent) {id : Nat} {charId : Int64}
    (holds : g.hall.court.roster.charId? id = some charId)
    (step : Step (fun s p => s.client.id = id → s.LeavesCharacter p) g g') :
    g'.hall.court.roster.charId? id = some charId ∨ g'.Gone id := by
  obtain ⟨profile, listed, rfl⟩ := Option.map_eq_some_iff.1 holds
  have enrolled : g.hall.court.roster.contains id := by
    rw [Court.Roster.contains, listed]
    rfl
  have past := coherent.fresh id enrolled
  rcases step.quiet_or_turn with quiet | ⟨i, session, p, live, leaves, rfl⟩
  · -- No id is given out twice, so whoever is still on the roster under it is the same client.
    have retains := retains_quiet (.single quiet)
    by_cases stays : g'.hall.court.roster.contains id
    · refine .inl ?_
      rw [Court.Roster.charId?, retains.profile id past stays, listed]
      rfl
    · exact .inr ⟨past.trans_le retains.nextId, stays⟩
  · refine .inl ?_
    rw [coherent.builtin]
    have spares := ((g.visit session).scene.turned_dispatch p).spares
    by_cases own : (g.visit session).scene.client.id = id
    · subst own
      -- What the client shows may change in its own turn, but not what it plays.
      obtain ⟨after, found⟩ := Option.isSome_iff_exists.1 ((spares.enrolled _).trans enrolled)
      obtain ⟨old, before, reprofiles⟩ := Scene.reprofiles_dispatch found
      cases before.symm.trans listed
      refine Option.map_eq_some_iff.2 ⟨after, found, ?_⟩
      cases reprofiles with
      | kept settled => rfl
      | shown commits => rfl
      | recast recasts charId folder =>
        exact absurd recasts ((leaves rfl).not_recasts coherent.consistent)
    · refine Option.map_eq_some_iff.2 ⟨profile, ?_, rfl⟩
      exact (spares.profile id (Ne.symm own)).trans listed

theorem charId_leads {g g' : Gateway} (coherent : g.Coherent) {id : Nat} {charId : Int64}
    (holds : g.hall.court.roster.charId? id = some charId)
    (leads : Leads (fun s p => s.client.id = id → s.LeavesCharacter p) g g') :
    g'.hall.court.roster.charId? id = some charId ∨ g'.Gone id := by
  refine (leads.keeps_of_coherent
    (fun g => g.hall.court.roster.charId? id = some charId ∨ g.Gone id) ?_ coherent
    (.inl holds)).2
  rintro g g' coherent (here | gone) next
  · exact charId_step coherent here next
  · exact .inr (gone_step coherent gone next)

/-- In every state that can be reached, a packet that asks for a character is granted exactly if it
picks one that is free for the client; then the client plays that one, idle, and otherwise what it
played before. A client that enters an area has to let go of its character exactly if another one
there holds it, and is told so first. Whatever else happens, a client plays the same character for
as long as it is connected. -/
theorem casting_exact {config : Config} {g : Gateway} (reached : Reached config g) {id : Nat}
    {session : Session} (live : g.sessions.find? id = some session) :
    ∃ profile, g.Plays id profile ∧
      (∀ p, p.command = "CC" → g.Cast id session profile p) ∧
      (∀ p, p.command = "RD" → ∃ area, (g.visit session).scene.Enters p 0 area [.named "DONE"]) ∧
      (∀ p index area lead, (g.visit session).scene.Enters p index area lead →
        g.Seated id session profile p index (lead ++ Scene.areaPackets area)) ∧
      ∀ g', Leads (fun s p => s.client.id = id → s.LeavesCharacter p) g g' →
        ∀ later, g'.sessions.find? id = some later →
          later.client.charId = session.client.charId ∧
            g'.hall.court.roster.charId? id = g.hall.court.roster.charId? id := by
  obtain ⟨coherent, -⟩ := reached.sound
  obtain ⟨same, clean⟩ := reached.config_eq
  subst same
  obtain ⟨profile, plays⟩ := coherent.exists_plays live
  refine ⟨profile, plays, fun p command => coherent.cast live plays.listed command,
    fun p command => ?_, fun p index area lead enters =>
      coherent.seated_of_enters live plays.listed clean enters, fun g' leads later found => ?_⟩
  · obtain ⟨area, rest, areas⟩ := List.exists_cons_of_ne_nil (Config.areas_ne_nil clean)
    have known : g.hall.config.areas[0]? = some area := by
      rw [areas]
      rfl
    exact ⟨area, .first command known⟩
  · obtain ⟨own, agrees⟩ := coherent.own id session live
    obtain ⟨own', agrees'⟩ := (reached.leads leads).sound.1.own id later found
    have before := own ▸ agrees.character
    have after := own' ▸ agrees'.character
    rcases charId_leads coherent before leads with still | gone
    · exact ⟨Option.some.inj (after.symm.trans still), still.trans before.symm⟩
    · cases ((reached.leads leads).forgets gone).1.symm.trans found

/-- What gives the second client the other character. -/
def swap : Wire.Packet := ⟨"CC", ["1", " 1 "]⟩

theorem casting_exact_namesakes :
    Reached courthouse namesakes ∧ ∃ session, namesakes.sessions.find? 1 = some session ∧
      (namesakes.handlers.dispatch (namesakes.visit session).scene swap).outcome = .done ∧
      (namesakes.afterTurn 1 session swap).Plays 1 ⟨1, .idle "Edgeworth"⟩ ∧
      (namesakes.visit session).scene.Clashes 1 ∧
      (namesakes.afterTurn 1 session follow).Plays 1 ⟨-1, {}⟩ ∧
      (∃ area, (namesakes.visit session).scene.Enters ⟨"RD", []⟩ 0 area [.named "DONE"]) ∧
      (namesakes.depart 0).hall.court.roster.charId? 1 = some 0 := by
  have reached : Reached courthouse namesakes := reached_run ofConfig_courthouse _
  have evaluated : ((namesakes.sessions.find? 1).map fun session =>
      (session.client.id, session.client.area, session.client.charId)) =
      some (1, some 0, 0) := by
    decide +kernel
  obtain ⟨session, live, all⟩ := Option.map_eq_some_iff.1 evaluated
  obtain ⟨own, rest⟩ := Prod.mk.inj all
  obtain ⟨here, character⟩ := Prod.mk.inj rest
  obtain ⟨profile, -, cast, joins, seated, still⟩ := casting_exact reached live
  have config : namesakes.hall.config = courthouse := reached.config_eq.1
  have alone : namesakes.hall.court.roster.taken
      (namesakes.hall.court.presence.clientsIn 0) 1 1 = false := by
    decide +kernel
  have picks : (namesakes.visit session).scene.Picks swap 1 "Edgeworth" := by
    refine ⟨rfl, by decide, .inr ⟨by decide, ?_, fun area there rival => ?_⟩⟩
    · rw [Visit.scene, config]
      rfl
    obtain rfl : 0 = area := Option.some.inj (here.symm.trans there)
    have taken := (Scene.taken_iff (s := (namesakes.visit session).scene)
      reached.sound.1.consistent 0 1).2 rival
    rw [Scene.taken, Visit.scene, own, alone] at taken
    cases taken
  have placed : namesakes.hall.court.presence.areaOf 0 = some 1 := by decide +kernel
  have held : namesakes.hall.court.roster.charId? 0 = some 0 := by decide +kernel
  have clashes : (namesakes.visit session).scene.Clashes 1 := by
    rw [Scene.Clashes, Visit.scene, character]
    exact ⟨by decide, 0, own ▸ by decide, placed, held⟩
  have enters : (namesakes.visit session).scene.Enters follow 1 { name := "Courtroom" } [] := by
    refine .other rfl (by decide) ?_ ?_
    · rw [Visit.scene, config]
      rfl
    · rw [Visit.scene, here]
      decide
  have leads : Leads (fun s p => s.client.id = 1 → s.LeavesCharacter p) namesakes
      (namesakes.depart 0) := .single (.depart 0)
  obtain ⟨later, found⟩ : ∃ later, (namesakes.depart 0).sessions.find? 1 = some later :=
    Option.isSome_iff_exists.1 (by decide +kernel)
  have before : namesakes.hall.court.roster.charId? 1 = some 0 := by decide +kernel
  exact ⟨reached, session, live, (cast swap rfl).granted.2 ⟨1, _, picks⟩,
    (cast swap rfl).picked _ _ picks, clashes, ((seated _ _ _ _ enters).released clashes).1,
    joins ⟨"RD", []⟩ rfl, (still _ leads later found).2.trans before⟩

end Gateway
end CourtroomGateway
