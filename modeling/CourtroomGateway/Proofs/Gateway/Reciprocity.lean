import CourtroomGateway.Proofs.Gateway.Companions
import CourtroomGateway.Proofs.Gateway.Signatures

/-! Partners that answer each other. A message that is shown with a companion leaves a pose which
declares that companion's character. If the companion speaks next, in the same position and for
its part declaring the character that the message was spoken for, it is shown with the first
speaker, as this one was shown by its message. Nobody else can stand in for the first speaker,
since nobody else in the area has its character. -/

namespace CourtroomGateway

namespace Speech

/-- No two candidates play the same character. -/
def Distinct (cs : List Candidate) : Prop :=
  ∀ c ∈ cs, ∀ d ∈ cs, 0 ≤ c.charId → c.charId = d.charId → c = d

/-- Where only one candidate can qualify, it is the one that is taken. -/
theorem findCompanion_eq_some {target : Int64} {me : Speaker} {pos : String}
    {cs : List Candidate} {d : Candidate} (listed : d ∈ cs) (eligible : d.eligible me pos target)
    (unique : ∀ d' ∈ cs, d'.eligible me pos target → d' = d) :
    findCompanion target me pos cs = some (.of d) := by
  have found : (cs.find? fun d' => d'.eligible me pos target).isSome :=
    List.find?_isSome.2 ⟨d, listed, eligible⟩
  obtain ⟨d', first⟩ := Option.isSome_iff_exists.1 found
  have qualifies := List.find?_some first
  have same : d' = d := unique d' (List.mem_of_find?_eq_some first) qualifies
  rw [findCompanion, first, same, Option.map_some]

namespace Slot

/-- The message declares the character for the slot, and not for the other one before it. -/
def Names (n : Message) (charId : Int64) : Slot → Prop
  | primary => n.charidPair = charId
  | third => n.thirdCharid = charId ∧ n.charidPair ≠ charId

theorem companion_of_names {n : Message} {charId : Int64} {slot : Slot}
    (names : slot.Names n charId) {me : Speaker} (playing : 0 ≤ me.charId)
    (cs : List Candidate) :
    slot.companion (n.pair me cs) = findCompanion charId me n.pos cs := by
  rw [Message.pair, if_neg (Int64.not_lt.2 playing)]
  cases slot with
  | primary =>
    obtain rfl : n.charidPair = charId := names
    rfl
  | third =>
    obtain ⟨rfl, other⟩ := names
    simp only [companion, if_neg (Ne.symm other)]

end Slot
end Speech

theorem Court.distinct_candidates {c : Court} (exclusive : c.Exclusive) (area except : Nat) :
    Speech.Distinct (c.candidates area except) := by
  intro d listed d' listed' plays same
  obtain ⟨there, -, known⟩ := mem_candidates_iff.1 listed
  obtain ⟨there', -, known'⟩ := mem_candidates_iff.1 listed'
  have client : d.clientId = d'.clientId := by
    by_contra apart
    refine exclusive area d.clientId d'.clientId d.charId apart there there' plays ?_ ?_
    · rw [Roster.charId?, known]
      rfl
    · rw [Roster.charId?, known', same]
      rfl
  rw [client] at known
  obtain ⟨-, pose⟩ := Profile.mk.inj (Option.some.inj (known.symm.trans known'))
  cases d
  cases d'
  simp only at client same pose
  rw [client, same, pose]

theorem Scene.roster_dispatch_of_commits {s : Scene} {p : Wire.Packet} {area : Nat}
    {m : Speech.Message} (commits : s.Commits p area m) :
    (Handlers.builtin.dispatch s p).scene.hall.court.roster =
      s.hall.court.roster.setPose s.client.id (.ofMessage m) := by
  obtain ⟨speaks, shows⟩ := commits
  rw [Handlers.dispatch_builtin, speaks, Handlers.answer, (alike_recordDuration _ _ _).roster]
  have committed : Request.Commits area m (.speaking (.spoken area m)) := ⟨rfl, rfl, shows⟩
  exact Request.roster_of_commits committed s

theorem Scene.Speaks.plays {s : Scene} {p : Wire.Packet} {area : Nat} {m : Speech.Message}
    (h : s.Speaks p area m) : 0 ≤ s.client.charId := by
  obtain ⟨-, -, permitted⟩ := Commands.Speaking.judge_spoken_iff.1 (decided_of_request h).2
  exact (Commands.Speaking.permits_iff.1 permitted).1

namespace Gateway
open Speech (Slot Companion)

/-- Who is there in both has the profile and the place that it had. Ids below the next one are not
given out again, so such a client never left. -/
structure Retains (g g' : Gateway) : Prop where
  nextId : g.hall.court.roster.nextId ≤ g'.hall.court.roster.nextId
  profile : ∀ id < g.hall.court.roster.nextId, g'.hall.court.roster.contains id →
    g'.hall.court.roster.find? id = g.hall.court.roster.find? id
  place : ∀ id < g.hall.court.roster.nextId, g'.hall.court.roster.contains id →
    g'.hall.court.presence.areaOf id = g.hall.court.presence.areaOf id

theorem Retains.refl (g : Gateway) : g.Retains g := ⟨le_rfl, fun _ _ _ => rfl, fun _ _ _ => rfl⟩

theorem Retains.trans {g g₁ g₂ : Gateway} (h : g.Retains g₁) (h' : g₁.Retains g₂) :
    g.Retains g₂ := by
  have between (id : Nat) (known : id < g.hall.court.roster.nextId)
      (stays : g₂.hall.court.roster.contains id) : g₁.hall.court.roster.contains id := by
    rwa [Court.Roster.contains, ← h'.profile id (known.trans_le h.nextId) stays]
  refine ⟨h.nextId.trans h'.nextId, fun id known stays => ?_, fun id known stays => ?_⟩
  · have later := h'.profile id (known.trans_le h.nextId) stays
    exact later.trans (h.profile id known (between id known stays))
  · have later := h'.place id (known.trans_le h.nextId) stays
    exact later.trans (h.place id known (between id known stays))

theorem retains_arrive (g : Gateway) (transport : Transport) (now : Nat) :
    g.Retains (g.arrive transport now).2 := by
  unfold arrive
  cases opened : g.hall.openSession transport now with
  | error refusal => exact .refl g
  | ok v =>
    obtain ⟨-, -, roster, presence, -, -⟩ := Hall.openSession_ok opened
    refine ⟨?_, fun id known _ => ?_, fun id _ _ => by rw [presence]⟩
    · rw [roster]
      exact Nat.le_succ _
    · rw [roster, Court.Roster.find?_enrol, if_neg (Nat.ne_of_lt known)]

theorem retains_depart (g : Gateway) (id : Nat) : g.Retains (g.depart id) := by
  unfold depart
  cases live : g.sessions.find? id with
  | none => exact .refl g
  | some session =>
    have apart {i : Nat}
        (stays : (g.hall.court.roster.remove session.client.id).contains i) :
        i ≠ session.client.id := by
      rintro rfl
      simp [Court.Roster.contains] at stays
    refine ⟨le_rfl, fun i _ stays => ?_, fun i _ stays => ?_⟩
    · simp only [Hall.roster_endSession, Court.Roster.find?_remove, if_neg (apart stays)]
    · simp only [Hall.presence_endSession, Court.Presence.areaOf_leave, if_neg (apart stays)]

/-- Between turns clients come and go, and those that stay are not touched. -/
theorem retains_quiet {g g' : Gateway} (quiet : Leads (fun _ _ => False) g g') :
    g.Retains g' := by
  induction quiet with
  | refl => exact .refl g
  | tail _ step ih =>
    refine ih.trans ?_
    cases step with
    | tend live framer bucket => exact ⟨le_rfl, fun _ _ _ => rfl, fun _ _ _ => rfl⟩
    | overflow live => exact ⟨le_rfl, fun _ _ _ => rfl, fun _ _ _ => rfl⟩
    | drop live => exact ⟨le_rfl, fun _ _ _ => rfl, fun _ _ _ => rfl⟩
    | collect id => exact ⟨le_rfl, fun _ _ _ => rfl, fun _ _ _ => rfl⟩
    | wait milliseconds => exact ⟨le_rfl, fun _ _ _ => rfl, fun _ _ _ => rfl⟩
    | turn live parsed admitted => exact admitted.elim
    | arrive transport now => exact retains_arrive _ transport now
    | depart id => exact retains_depart _ id

/-- A speaker is shown with the client of its area that has the character it declares, where this
one declares the speaker in turn and stands in the same position. -/
theorem companion_eq_some {g : Gateway} (coherent : g.Coherent)
    (exclusive : g.hall.court.Exclusive) {id : Nat} {session : Session}
    (live : g.sessions.find? id = some session) {p : Wire.Packet} {area : Nat}
    {m : Speech.Message} (speaks : (g.visit session).scene.Speaks p area m) {slot : Slot}
    {d : Speech.Candidate} (names : slot.Names m d.charId) (plays : 0 ≤ d.charId)
    (apart : d.clientId ≠ id) (beside : g.hall.court.presence.areaOf d.clientId = some area)
    (known : g.hall.court.roster.find? d.clientId = some ⟨d.charId, d.pose⟩)
    (stands : d.pose.pos = m.pos) (declares : d.pose.declares session.client.charId) :
    slot.companion (Commands.Speaking.pairing (g.visit session).scene area m) =
      some (.of d) := by
  obtain ⟨named, -⟩ := coherent.own id session live
  have there := (coherent.consistent.mem_clientsIn area d.clientId).2 beside
  have other : d.clientId ≠ session.client.id := named.symm ▸ apart
  have listed : d ∈ g.hall.court.candidates area session.client.id :=
    Court.mem_candidates_iff.2 ⟨there, other, known⟩
  refine (Slot.companion_of_names names speaks.plays _).trans
    (Speech.findCompanion_eq_some listed ?_ fun d' listed' eligible => ?_)
  · exact Speech.Candidate.eligible_iff.2
      ⟨plays, other, rfl, stands, Speech.Pose.declares_iff.1 declares⟩
  · have partners := Speech.Candidate.eligible_iff.1 eligible
    exact Court.distinct_candidates exclusive area _ d' listed' d listed
      (partners.plays ▸ partners.declared) partners.plays

/-- A companion that is shown is another client of the area with the character that the speaker
declares. -/
theorem beside_of_confirmed {g : Gateway} (coherent : g.Coherent) {session : Session} {area : Nat}
    {m : Speech.Message} {slot : Slot} {c : Companion}
    (confirmed :
      slot.companion (Commands.Speaking.pairing (g.visit session).scene area m) = some c) :
    c.clientId ≠ session.client.id ∧
      g.hall.court.presence.areaOf c.clientId = some area ∧
      g.hall.court.roster.charId? c.clientId = some c.charId ∧ c.charId = slot.target m := by
  obtain ⟨-, d, listed, partners, rfl⟩ := Slot.exists_candidate confirmed
  obtain ⟨there, apart, known⟩ := Court.mem_candidates_iff.1 listed
  change g.hall.court.roster.find? d.clientId = some ⟨d.charId, d.pose⟩ at known
  refine ⟨apart, (coherent.consistent.mem_clientsIn area d.clientId).1 there, ?_, partners.plays⟩
  rw [Court.Roster.charId?, Companion.of, known]
  rfl

section Committing
variable {g : Gateway} (coherent : g.Coherent) {session : Session} {p : Wire.Packet} {area : Nat}
  {m : Speech.Message} (commits : (g.visit session).scene.Commits p area m)
include coherent commits

theorem settled_afterTurn (id : Nat) :
    (∀ i, (g.afterTurn id session p).hall.court.roster.charId? i =
        g.hall.court.roster.charId? i) ∧
      (g.afterTurn id session p).hall.court.presence = g.hall.court.presence := by
  rw [afterTurn, coherent.builtin]
  exact Scene.settled_dispatch commits.1.relay

theorem find?_roster_afterTurn {id : Nat} (live : g.sessions.find? id = some session) :
    (g.afterTurn id session p).hall.court.roster.find? id =
      some ⟨session.client.charId, .ofMessage m⟩ := by
  obtain ⟨rfl, own⟩ := coherent.own id session live
  obtain ⟨profile, found, character⟩ := Option.map_eq_some_iff.1 own.character
  have roster : (g.afterTurn session.client.id session p).hall.court.roster =
      g.hall.court.roster.setPose session.client.id (.ofMessage m) := by
    rw [afterTurn, coherent.builtin]
    exact Scene.roster_dispatch_of_commits commits
  rw [roster, Court.Roster.find?_setPose, if_pos rfl, found, ← character]
  rfl

end Committing

/-- In every state that can be reached, a message that is shown with a companion is answered. If
nobody else takes a turn, and that companion speaks from the same position and declares in some
slot the character that the message was spoken for, then it stands in the same area and is shown
in that slot with the first speaker, as the message showed it. -/
theorem companions_answer {config : Config} {g g' : Gateway} (reached : Reached config g)
    {first : Nat} {session : Session} (live : g.sessions.find? first = some session)
    {message : String} {p : Wire.Packet} (parsed : Wire.Packet.parse? message = some p)
    {area : Nat} {m : Speech.Message} (commits : (g.visit session).scene.Commits p area m)
    {slot : Slot} {c : Companion}
    (confirmed :
      slot.companion (Commands.Speaking.pairing (g.visit session).scene area m) = some c)
    (quiet : Leads (fun _ _ => False) (g.afterTurn first session p) g')
    (stays : g'.sessions.contains first) {partner : Session}
    (live' : g'.sessions.find? c.clientId = some partner) {q : Wire.Packet} {place : Nat}
    {n : Speech.Message} (speaks : (g'.visit partner).scene.Speaks q place n)
    (stands : n.pos = m.pos) {back : Slot} (names : back.Names n session.client.charId) :
    place = area ∧
      back.companion (Commands.Speaking.pairing (g'.visit partner).scene place n) =
        some
          { clientId := first
            charId := session.client.charId
            folder := m.folder
            anim := m.anim
            offset := m.offsetPair
            flip := m.flip } := by
  obtain ⟨coherent, -⟩ := reached.sound
  obtain ⟨named, agrees⟩ := coherent.own first session live
  obtain ⟨apart, beside, character, target⟩ := beside_of_confirmed coherent confirmed
  -- The turn leaves everyone in place, and the first speaker in the pose of its message.
  have reached₁ : Reached config (g.afterTurn first session p) :=
    .step reached (.turn live parsed trivial)
  have shown := find?_roster_afterTurn coherent commits live
  obtain ⟨characters, presence⟩ := settled_afterTurn coherent commits first
  have here : (g.afterTurn first session p).hall.court.presence.areaOf first = some area := by
    rw [presence, ← named, agrees.place]
    exact commits.1.area
  have there : (g.afterTurn first session p).hall.court.presence.areaOf c.clientId =
      some area := by
    rw [presence, beside]
  -- Both are still there when the companion speaks, and so nothing about them has changed.
  have reached' : Reached config g' := reached₁.leads quiet
  obtain ⟨coherent', -⟩ := reached'.sound
  have retains := retains_quiet quiet
  have stayed {i : Nat}
      (before : (g.afterTurn first session p).hall.court.presence.areaOf i = some area)
      (after : g'.sessions.contains i) :
      g'.hall.court.roster.find? i = (g.afterTurn first session p).hall.court.roster.find? i ∧
        g'.hall.court.presence.areaOf i = some area := by
    have known := reached₁.sound.1.fresh i (reached₁.sound.1.placed i area before)
    have still : g'.hall.court.roster.contains i := coherent'.seated i ▸ after
    exact ⟨retains.profile i known still, (retains.place i known still).trans before⟩
  obtain ⟨shown', here'⟩ := stayed here stays
  obtain ⟨kept, there'⟩ := stayed there (by rw [Table.contains, live']; rfl)
  obtain ⟨named', agrees'⟩ := coherent'.own c.clientId partner live'
  have plays : partner.client.charId = c.charId := by
    have held := agrees'.character
    rw [named', Court.Roster.charId?, kept, ← Court.Roster.charId?, characters, character] at held
    exact (Option.some.inj held).symm
  have same : place = area := by
    have stood := agrees'.place
    rw [named', there'] at stood
    exact Option.some.inj (speaks.area.symm.trans stood.symm)
  subst same
  refine ⟨rfl, ?_⟩
  have declares : (Speech.Pose.ofMessage m).declares partner.client.charId := by
    rw [Speech.Pose.declares_iff, plays, target]
    cases slot with
    | primary => exact .inl rfl
    | third => exact .inr rfl
  have other : first ≠ c.clientId := named ▸ apart.symm
  exact companion_eq_some (d := ⟨first, session.client.charId, .ofMessage m⟩) coherent'
    reached'.apart.1 live' speaks names commits.1.plays other here' (shown'.trans shown)
    stands.symm declares

/-- The second client has addressed the first. -/
def rehearsal : Gateway :=
  doors.run
    [.arrive .tcp 0, .arrive .ws 0, feeds 0 "CC#0#0#%RD#%", feeds 1 "CC#1#1#%RD#%",
      utters 1 rejoinder]

/-- What the second client says to the first when this one has spoken, in its third slot. -/
def assent : Speech.Message :=
  { rejoinder with dialect := .aoGolden, offsetPair := "0", charidPair := -1, thirdCharid := 0 }

theorem companions_answer_rehearsal :
    Reached courthouse rehearsal ∧ ∃ session partner,
      rehearsal.sessions.find? 0 = some session ∧
        Leads (fun _ _ => False) (rehearsal.afterTurn 0 session ⟨"MS", plea.render⟩)
          ((rehearsal.afterTurn 0 session ⟨"MS", plea.render⟩).wait 500) ∧
        Slot.third.companion
            (Commands.Speaking.pairing
              (((rehearsal.afterTurn 0 session ⟨"MS", plea.render⟩).wait 500).visit partner).scene
              0 assent) =
          some ⟨0, 0, "Nick", "point", "0", 0⟩ := by
  have reached : Reached courthouse rehearsal := reached_run ofConfig_courthouse _
  have parsed : Wire.Packet.parse?
      "MS#1##Nick#point##wit#0#0#0#0#0#0#0#0#0##1^1#0#0#0#0####0#" =
      some ⟨"MS", plea.render⟩ := by
    decide +kernel
  have evaluated : ((rehearsal.sessions.find? 0).map fun session =>
      ((rehearsal.visit session).scene.request ⟨"MS", plea.render⟩,
        Slot.primary.companion
          (Commands.Speaking.pairing (rehearsal.visit session).scene 0 plea),
        ((rehearsal.afterTurn 0 session ⟨"MS", plea.render⟩).wait 500).sessions.contains 0,
        (((rehearsal.afterTurn 0 session ⟨"MS", plea.render⟩).wait 500).sessions.find? 1).map
          fun partner =>
            (((rehearsal.afterTurn 0 session ⟨"MS", plea.render⟩).wait 500).visit
              partner).scene.request ⟨"MS", assent.render⟩)) =
      some (.ok (.speaking (.spoken 0 plea)), some ⟨1, 1, "Miles", "smirk", "-30", 1⟩, true,
        some (.ok (.speaking (.spoken 0 assent)))) := by
    decide +kernel
  obtain ⟨session, live, all⟩ := Option.map_eq_some_iff.1 evaluated
  obtain ⟨speaks, rest⟩ := Prod.mk.inj all
  obtain ⟨confirmed, rest⟩ := Prod.mk.inj rest
  obtain ⟨stays, rest⟩ := Prod.mk.inj rest
  obtain ⟨partner, live', speaks'⟩ := Option.map_eq_some_iff.1 rest
  have quiet : Leads (fun _ _ => False) (rehearsal.afterTurn 0 session ⟨"MS", plea.render⟩)
      ((rehearsal.afterTurn 0 session ⟨"MS", plea.render⟩).wait 500) :=
    .single (.wait 500)
  have character : (rehearsal.sessions.find? 0).map (·.client.charId) = some 0 := by rfl
  rw [live, Option.map_some, Option.some.injEq] at character
  have names : Slot.third.Names assent session.client.charId := by
    rw [character]
    exact ⟨rfl, by decide⟩
  have answered := companions_answer reached live parsed ⟨speaks, by decide⟩ confirmed quiet stays
    live' speaks' rfl names
  rw [character] at answered
  exact ⟨reached, session, partner, live, quiet, answered.2⟩

end Gateway
end CourtroomGateway
