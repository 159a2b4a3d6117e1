import CourtroomGateway.Floor
import CourtroomGateway.Proofs.Court.Publishing
import CourtroomGateway.Proofs.Gateway.Signatures

/-! What holds at every time while speech is being delivered. The beginning, the sends and the end
of a delivery touch nobody but its sender, who shows a pose, and so keep all that turns keep. What a
client is saying bears the character that it plays, since a client who waits for its speech to be
delivered neither picks another character nor moves. -/

namespace CourtroomGateway

namespace Scene

section Shown
variable (s : Scene) (m : Speech.Message)

/-- Speech that begins touches the roster, the metrics and the sender's dialect, and in the roster
it leaves everyone's character. -/
theorem exists_shown :
    ∃ roster metrics,
      s.shown m =
        { hall := { s.hall with court := { s.hall.court with roster }, metrics }
          client := { s.client with dialect := some m.dialect } } ∧
      ∀ i, roster.contains i = s.hall.court.roster.contains i ∧
        roster.charId? i = s.hall.court.roster.charId? i := by
  unfold shown Commands.Speaking.commitPose
  split
  · exact ⟨_, _, rfl, fun i => ⟨(s.spares_showPose (.ofMessage m)).enrolled i,
      Court.Roster.charId?_setPose _ _ _ _⟩⟩
  · exact ⟨_, _, rfl, fun i => ⟨rfl, rfl⟩⟩

theorem client_shown : (s.shown m).client = { s.client with dialect := some m.dialect } := by
  obtain ⟨roster, metrics, same, -⟩ := s.exists_shown m
  rw [same]

theorem clock_shown : (s.shown m).hall.clock = s.hall.clock := by
  obtain ⟨roster, metrics, same, -⟩ := s.exists_shown m
  rw [same]

theorem mail_shown : (s.shown m).hall.court.mail = s.hall.court.mail := by
  obtain ⟨roster, metrics, same, -⟩ := s.exists_shown m
  rw [same]

theorem presence_shown : (s.shown m).hall.court.presence = s.hall.court.presence := by
  obtain ⟨roster, metrics, same, -⟩ := s.exists_shown m
  rw [same]

theorem charId?_shown (i : Nat) :
    (s.shown m).hall.court.roster.charId? i = s.hall.court.roster.charId? i := by
  obtain ⟨roster, metrics, same, kept⟩ := s.exists_shown m
  rw [same]
  exact (kept i).2

theorem recipients_shown (area : Nat) :
    (s.shown m).hall.court.recipients area = s.hall.court.recipients area := by
  obtain ⟨roster, metrics, same, kept⟩ := s.exists_shown m
  rw [same]
  exact List.filter_congr fun i _ => (kept i).1

end Shown

variable {s : Scene} {p : Wire.Packet} {area : Nat} {m : Speech.Message}

theorem turned_speakUp (speaks : s.SpeaksOut p area m) : s.Turned p (s.speakUp area m) := by
  obtain ⟨decoded, -, -⟩ := Commands.Speaking.judge_spoken_iff.1 speaks.2
  have begun : (s.shown m).Alike (s.speakUp area m) :=
    ⟨Court.roster_postAll _ _ _, Court.presence_postAll _ _ _, rfl, rfl, rfl, rfl, rfl⟩
  by_cases commits : m.commitsPose
  · exact .posed m decoded ((alike_shown_of_commits commits s).trans begun)
  · exact .kept ((alike_shown commits s).trans begun)

/-- Who is to be sent speech: all who are reached in the area, but for its sender. -/
theorem mem_pending_iff {receiver : Nat} :
    receiver ∈ (s.sending area m).pending ↔
      receiver ∈ s.hall.court.recipients area ∧ receiver ≠ s.client.id := by
  rw [sending, Court.beginSending, List.mem_filter, recipients_shown, decide_eq_true_iff, ne_comm]
  simp

/-- When speech begins, wires are put into mailboxes and nothing else is done to these. -/
theorem fills_speakUp (s : Scene) (area : Nat) (m : Speech.Message) :
    s.hall.court.Fills (s.speakUp area m).hall.court := by
  let shown := (s.shown m).hall.court
  have same : shown.mail = s.hall.court.mail := s.mail_shown m
  have unique := (shown.nodup_recipients area).filter (some s.client.id = some ·)
  obtain ⟨boxes, filled⟩ :=
    Court.fills_postAll unique shown (m.broadcast (Commands.Speaking.pairing s area m)).toWire
  exact ⟨same ▸ boxes, fun i box found => filled i box (same ▸ found)⟩

theorem relay_of_speaksOut (speaks : s.SpeaksOut p area m) :
    s.relay? p = some (area, m.broadcast (Commands.Speaking.pairing s area m)) := by
  have decided : (Request.speaking (.spoken area m)).Decided s p := speaks
  rw [relay?, request_eq_ok_iff.2 decided]
  rfl

end Scene

namespace Gateway.Orderly
variable {g g' : Gateway} (h : g.Orderly)
include h

theorem leads {admits : Scene → Wire.Packet → Prop} (leads : Leads admits g g') : g'.Orderly :=
  leads.keeps Orderly (fun _ _ h step => ⟨h.coherent.step step,
    exclusive_step h.coherent h.exclusive step, plain_step h.coherent h.poses step⟩) h

theorem after_turned {id : Nat} {session : Session} (live : g.sessions.find? id = some session)
    {v : Visit} {p : Wire.Packet} (turned : (g.visit session).scene.Turned p v.scene)
    (plain : ∀ a ∈ p.args, '#' ∉ a.toList) : (g.after id v).Orderly := by
  obtain ⟨-, own⟩ := h.coherent.own id session live
  have alone : (g.visit session).scene.Alone :=
    Scene.alone_of_exclusive h.coherent.consistent own h.exclusive
  constructor
  · exact h.coherent.after live turned.spares (turned.agrees own)
  · exact Scene.exclusive_of_alone turned.spares h.coherent.consistent (turned.agrees own)
      (turned.alone h.coherent.consistent alone) h.exclusive
  · exact turned.posesShow (fun n => (Wire.safe_decimal n).plain) (by simp) plain h.poses

/-- Mail, metrics and the clock do not matter. -/
theorem inHall (hall : Hall) (roster : hall.court.roster = g.hall.court.roster)
    (presence : hall.court.presence = g.hall.court.presence)
    (config : hall.config = g.hall.config) : { g with hall }.Orderly where
  coherent := h.coherent.inHall hall roster presence config
  exclusive := by
    rw [Court.Exclusive, roster, presence]
    exact h.exclusive
  poses := by
    rw [Court.PosesShow, roster]
    exact h.poses

end Gateway.Orderly

namespace Court.Sending.Next
variable {wire : String} {timeout : Nat} {s t : Sending}

theorem roster (next : s.Next wire timeout t) : t.court.roster = s.court.roster := by
  cases next <;> rfl

theorem presence (next : s.Next wire timeout t) : t.court.presence = s.court.presence := by
  cases next <;> rfl

theorem pending (next : s.Next wire timeout t) : t.pending ⊆ s.pending := by
  cases next with
  | waited milliseconds => exact List.Subset.refl _
  | _ => exact List.erase_subset

end Court.Sending.Next

/-- The wire is speech in the name of the client, who plays a character in some area. -/
structure Outgoing.SignedBy (u : Outgoing) (client : Client) : Prop where
  plays : 0 ≤ client.charId
  placed : client.area.isSome
  speech : ∃ packet : Wire.Packet, packet.Separated ∧ packet.command = "MS" ∧
    packet.args[8]? = some (Text.decimal client.charId) ∧ u.wire = packet.toWire

namespace Floor

/-- What is known of the floor at every time. -/
structure Sound (f : Floor) : Prop where
  orderly : f.gateway.Orderly
  signed : ∀ id u, f.speaking.find? id = some u →
    ∃ session, f.gateway.sessions.find? id = some session ∧ u.SignedBy session.client

/-- Speech of the client begins with this step. -/
inductive Begins (f : Floor) (id : Nat) : Floor → Prop
  | of {session : Session} (live : f.gateway.sessions.find? id = some session)
      (silent : f.speaking.find? id = none) {now : Nat} {message : String} {p : Wire.Packet}
      (heard : (f.gateway.visit session).packet? now message = some p) {area : Nat}
      {m : Speech.Message} (speaks : (f.gateway.visit session).scene.SpeaksOut p area m) :
      Begins f id (f.begun id ((f.gateway.visit session).charged now) area m)

/-- What a client is saying after a step it was saying before, with as many sends to come or more,
and its session is as it was; or it has just begun. -/
theorem Next.saying {f f' : Floor} {actor : Option Nat} (sound : f.Sound)
    (step : f.Next actor f') {id : Nat} {u' : Outgoing}
    (saying : f'.speaking.find? id = some u') :
    (∃ u, f.speaking.find? id = some u ∧ u'.wire = u.wire ∧ u'.pending ⊆ u.pending ∧
        f'.gateway.sessions.find? id = f.gateway.sessions.find? id) ∨
      f.Begins id f' := by
  have apart {other : Nat} {u : Outgoing} (said : f.speaking.find? id = some u)
      (silent : f.speaking.find? other = none) : id ≠ other := by
    rintro rfl
    cases silent.symm.trans said
  cases step with
  | arrives transport now =>
    refine .inl ⟨u', saying, rfl, List.Subset.refl _, ?_⟩
    obtain ⟨session, live, -⟩ := sound.signed id u' saying
    unfold Gateway.arrive
    cases opened : f.gateway.hall.openSession transport now with
    | error refusal => rfl
    | ok v =>
      have enrolled : f.gateway.hall.court.roster.contains id := by
        rw [sound.orderly.coherent.seated, Table.contains, live]
        rfl
      obtain ⟨-, -, -, -, -, client⟩ := Hall.openSession_ok opened
      have fresh : id ≠ v.session.client.id := by
        rw [client]
        exact Nat.ne_of_lt (sound.orderly.coherent.fresh id enrolled)
      simp [fresh]
  | frames live silent chunk =>
    refine .inl ⟨u', saying, rfl, List.Subset.refl _, ?_⟩
    exact (Gateway.find?_after _ _ _ _).trans (if_neg (apart saying silent))
  | handles live silent unspoken =>
    refine .inl ⟨u', saying, rfl, List.Subset.refl _, ?_⟩
    exact (Gateway.find?_after _ _ _ _).trans (if_neg (apart saying silent))
  | @begins other session live silent now message p heard area m speaks =>
    by_cases same : id = other
    · subst same
      exact .inr (.of live silent heard speaks)
    · have before : f.speaking.find? id = some u' := by
        simpa [begun, same] using saying
      exact .inl ⟨u', before, rfl, List.Subset.refl _,
        (Gateway.find?_after _ _ _ _).trans (if_neg same)⟩
  | @sends other u said s next =>
    refine .inl ?_
    by_cases same : id = other
    · subst same
      obtain rfl : { u with pending := s.pending } = u' := by simpa [sent] using saying
      exact ⟨u, said, rfl, next.pending, rfl⟩
    · have before : f.speaking.find? id = some u' := by
        simpa [sent, same] using saying
      exact ⟨u', before, rfl, List.Subset.refl _, rfl⟩
  | @ends other session live u said done =>
    have both : id ≠ other ∧ f.speaking.find? id = some u' := by
      simpa [ended] using saying
    exact .inl ⟨u', both.2, rfl, List.Subset.refl _,
      (Gateway.find?_after _ _ _ _).trans (if_neg both.1)⟩
  | receives other takes received => exact .inl ⟨u', saying, rfl, List.Subset.refl _, rfl⟩
  | @departs other silent =>
    refine .inl ⟨u', saying, rfl, List.Subset.refl _, ?_⟩
    have different : id ≠ other := apart saying silent
    unfold Gateway.depart
    cases f.gateway.sessions.find? other with
    | none => rfl
    | some session => simp [different]
  | waits milliseconds => exact .inl ⟨u', saying, rfl, List.Subset.refl _, rfl⟩

section Steps
variable {f f' : Floor} {actor : Option Nat}

theorem Sound.orderly_next (sound : f.Sound) (step : f.Next actor f') : f'.gateway.Orderly := by
  have orderly := sound.orderly
  cases step with
  | arrives transport now =>
    have leads : Gateway.Leads (fun _ _ => True) f.gateway _ := .single (.arrive transport now)
    exact orderly.leads leads
  | @frames id session live silent chunk =>
    have leads : Gateway.Leads (fun _ _ => True) _ _ :=
      f.gateway.leads_framed id (f.gateway.visit session) chunk
    rw [Gateway.after_self live] at leads
    exact orderly.leads leads
  | @handles id session live silent now message unspoken =>
    have leads : Gateway.Leads (fun _ _ => True) _ _ :=
      f.gateway.leads_handle id now (f.gateway.visit session) message fun _ _ => trivial
    rw [Gateway.after_self live] at leads
    exact orderly.leads leads
  | begins live silent heard speaks =>
    have turned := Scene.turned_speakUp speaks
    exact orderly.after_turned live turned
      (Wire.Packet.separated_of_parse (Visit.parse_of_packet? heard)).args
  | sends said next => exact orderly.inHall _ next.roster next.presence rfl
  | @ends id session live u said done =>
    have turned : (f.gateway.visit session).scene.Turned ⟨"MS", []⟩
        (Handlers.recordDuration "MS" u.since (f.gateway.visit session).scene) :=
      .kept (Scene.alike_recordDuration _ _ _)
    exact orderly.after_turned live turned nofun
  | receives id takes received => exact orderly.inHall _ rfl rfl rfl
  | @departs id silent =>
    have leads : Gateway.Leads (fun _ _ => True) f.gateway _ := .single (.depart id)
    exact orderly.leads leads
  | waits milliseconds => exact orderly.inHall _ rfl rfl rfl

/-- Speech that begins is signed by its sender, and sent to the area that the sender is in. -/
theorem Begins.exists_outgoing (orderly : f.gateway.Orderly) {id : Nat} (begins : f.Begins id f') :
    ∃ u session area, f'.speaking.find? id = some u ∧
      f'.gateway.sessions.find? id = some session ∧ u.SignedBy session.client ∧
      session.client.area = some area ∧ f.court.presence.areaOf id = some area ∧
      ∀ receiver ∈ u.pending, f.court.presence.areaOf receiver = some area := by
  obtain @⟨session, live, silent, now, message, p, heard, area, m, speaks⟩ := begins
  obtain ⟨own, agrees⟩ := orderly.coherent.own id session live
  have relayed := Scene.relay_of_speaksOut speaks
  have broadcasts := Scene.relay?_eq_some_iff.1 relayed
  have separated := Scene.separated_relay
    (Wire.Packet.separated_of_parse (Visit.parse_of_packet? heard)) orderly.poses relayed
  obtain ⟨here, plays, signed⟩ := broadcasts.signed (i := 8) rfl
  have client := (f.gateway.visit session).scene.client_shown m
  have character : ((f.gateway.visit session).scene.speakUp area m).client.charId =
      session.client.charId := congrArg (·.charId) client
  have place : ((f.gateway.visit session).scene.speakUp area m).client.area =
      session.client.area := congrArg (·.area) client
  have named : f.court.presence.areaOf id = some area := own ▸ agrees.place.trans here
  refine ⟨_, _, area, (Table.find?_insert _ _ _ _).trans (if_pos rfl),
    Gateway.live_after _ _ _, ⟨?_, ?_, ?_⟩, place.trans here, named, ?_⟩
  · exact character ▸ plays
  · exact Option.isSome_iff_exists.2 ⟨area, place.trans here⟩
  · exact ⟨_, separated, rfl, character ▸ signed, rfl⟩
  · intro receiver waits
    have listed := (List.mem_filter.1 (Scene.mem_pending_iff.1 waits).1).1
    exact (orderly.coherent.consistent.mem_clientsIn area receiver).1 listed

theorem Sound.next (sound : f.Sound) (step : f.Next actor f') : f'.Sound where
  orderly := sound.orderly_next step
  signed id u' saying := by
    rcases step.saying sound saying with ⟨u, said, wire, -, same⟩ | begins
    · obtain ⟨session, live, signed⟩ := sound.signed id u said
      refine ⟨session, same.trans live, signed.plays, signed.placed, ?_⟩
      rw [wire]
      exact signed.speech
    · obtain ⟨u, session, -, said, live, signed, -⟩ := begins.exists_outgoing sound.orderly
      cases said.symm.trans saying
      exact ⟨session, live, signed⟩

theorem Reached.sound {config : Config} (reached : Reached config f) : f.Sound := by
  induction reached with
  | opened accepted => exact ⟨(Gateway.Reached.opened accepted).orderly, nofun⟩
  | next before step ih => exact ih.next step

end Steps

end Floor
end CourtroomGateway
