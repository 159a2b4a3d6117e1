import CourtroomGateway.Proofs.Floor.Delays

/-! In whose name a wire is put into a mailbox, while speech takes its time. Speech names the
character that its sender plays, now as when it began, and nobody else in the sender's area plays
it. Its receivers were in the area when it began, but one whose mailbox was full then may have left
before the wire is put there. -/

namespace CourtroomGateway

theorem Court.not_appends_self (c : Court) (id : Nat) (wire : String) : ¬ c.Appends c id wire := by
  rintro ⟨new, same, mem⟩
  rw [List.self_eq_append_right] at same
  rw [same] at mem
  cases mem

theorem Court.Appends.of_eq {c c' d : Court} {receiver : Nat} {wire : String}
    (appended : c.Appends c' receiver wire) (same : c' = d) : c.Appends d receiver wire :=
  same ▸ appended

theorem Court.Appends.of_mail {c d c' : Court} {receiver : Nat} {wire : String}
    (appended : c.Appends c' receiver wire) (same : d.mail = c.mail) :
    d.Appends c' receiver wire := by
  rwa [Appends, Court.waitingFor_congr same]

/-- What is put into a mailbox by a list of posts is the wire, and the mailbox is one of them. -/
theorem Court.Appends.of_postAll {c : Court} {ids : List Nat} {sent wire : String} {receiver : Nat}
    (appended : c.Appends (c.postAll ids sent) receiver wire) : wire = sent ∧ receiver ∈ ids := by
  obtain ⟨new, waits, known⟩ := c.exists_waitingFor_postAll ids sent receiver
  obtain ⟨same, listed, -⟩ := known wire (appended.mem waits)
  exact ⟨same, listed⟩

theorem Court.Sending.Next.of_appended {sent wire : String} {timeout receiver : Nat}
    {s t : Court.Sending} (next : s.Next sent timeout t)
    (appended : s.court.Appends t.court receiver wire) : wire = sent ∧ receiver ∈ s.pending := by
  cases next with
  | @sent other waits free =>
    have posted : s.court.Appends (s.court.postAll [other] sent) receiver wire := appended
    obtain ⟨same, listed⟩ := posted.of_postAll
    exact ⟨same, List.mem_singleton.1 listed ▸ waits⟩
  | _ => exact absurd appended (s.court.not_appends_self receiver wire)

theorem Visit.court_handle_of_none (handlers : Handlers) {now : Nat} {v : Visit} {message : String}
    (none : v.packet? now message = none) :
    (v.handle handlers now message).2.hall.court = v.hall.court := by
  unfold packet? at none
  cases parsed : Wire.Packet.parse? message with
  | none => rw [handle_of_unparsed parsed]
  | some p =>
    cases verdict : (v.session.bucket.check now).1 with
    | overflow => rw [handle_of_overflow ⟨p, parsed, verdict⟩]
    | drop =>
      rw [handle_of_drop parsed verdict]
      rfl
    | pass => simp [verdict, parsed] at none

namespace Floor

/-- The client and the receiver were in the area when the client's speech began, and the client has
been speaking since. -/
def TakenUp (config : Config) (f : Floor) (id receiver area : Nat) : Prop :=
  ∃ f₀ f₁, Reached config f₀ ∧ f₀.Begins id f₁ ∧ Persists id f₁ f ∧
    f₀.court.presence.areaOf id = some area ∧ f₀.court.presence.areaOf receiver = some area

/-- The client's speech has still to be sent to the receiver. -/
def Awaits (f : Floor) (id receiver : Nat) : Prop :=
  ∃ u, f.speaking.find? id = some u ∧ receiver ∈ u.pending

section Steps
variable {config : Config} {f f' : Floor} {id receiver : Nat} {wire : String}

/-- Who is still to be sent what a client is saying was in the client's area when it began. -/
theorem Reached.exists_takenUp (reached : Reached config f) {u : Outgoing}
    (saying : f.speaking.find? id = some u) :
    ∃ area, f.court.presence.areaOf id = some area ∧
      ∀ receiver ∈ u.pending, TakenUp config f id receiver area := by
  induction reached generalizing u with
  | opened accepted => cases saying
  | @next f f' actor before step ih =>
    have sound := before.sound
    have place {session : Session} (live : f'.gateway.sessions.find? id = some session) :
        f'.court.presence.areaOf id = session.client.area := by
      obtain ⟨own, agrees⟩ := (sound.next step).orderly.coherent.own id session live
      exact own ▸ agrees.place
    rcases step.saying sound saying with ⟨u₀, said, -, fewer, same⟩ | begins
    · obtain ⟨area, here, taken⟩ := ih said
      obtain ⟨session, live, -⟩ := sound.signed id u₀ said
      obtain ⟨own, agrees⟩ := sound.orderly.coherent.own id session live
      have stays : f'.court.presence.areaOf id = some area :=
        (place (same.trans live)).trans (agrees.place.symm.trans (own ▸ here))
      refine ⟨area, stays, fun receiver waits => ?_⟩
      obtain ⟨f₀, f₁, reached₀, began, persists, places⟩ := taken receiver (fewer waits)
      have still : f'.speaking.contains id := by rw [Table.contains, saying]; rfl
      exact ⟨f₀, f₁, reached₀, began, .next persists step still, places⟩
    · obtain ⟨u', session, area, said, live, -, here, begun, there⟩ :=
        begins.exists_outgoing sound.orderly
      cases said.symm.trans saying
      exact ⟨area, (place live).trans here, fun receiver waits =>
        ⟨f, f', before, begins, .here, begun, there receiver waits⟩⟩

/-- What a step of a client puts into a mailbox comes from a turn of the client, or is what the
client is saying. That goes to the client itself at once, and later to those who are still to be
sent it, and it changes nobody's character and moves nobody. -/
theorem Next.appended_cases (sound : f.Sound) (step : f.Next (some id) f')
    (appended : f.court.Appends f'.court receiver wire) :
    (∃ session message p, f.gateway.sessions.find? id = some session ∧
        Wire.Packet.parse? message = some p ∧ f'.court = f.gateway.courtAfter session p) ∨
      ∃ u, f'.speaking.find? id = some u ∧ wire = u.wire ∧
        (receiver = id ∨ f.Awaits id receiver) ∧
        (∀ i, f'.court.roster.charId? i = f.court.roster.charId? i) ∧
        f'.court.presence = f.court.presence := by
  cases step with
  | @handles _ session live silent now message unspoken =>
    refine .inl ?_
    cases heard : (f.gateway.visit session).packet? now message with
    | none =>
      have same := Visit.court_handle_of_none f.gateway.handlers heard
      exact absurd (appended.of_eq same) (f.court.not_appends_self receiver wire)
    | some p =>
      have whole : (f.gateway.visit session).handle f.gateway.handlers now message = _ :=
        Visit.handle_of_packet heard
      exact ⟨session, message, p, live, Visit.parse_of_packet? heard,
        congrArg (·.2.hall.court) whole⟩
  | @begins _ session live silent now message p heard area m speaks =>
    let v := (f.gateway.visit session).charged now
    obtain ⟨own, -⟩ := sound.orderly.coherent.own id session live
    obtain ⟨same, listed⟩ := (appended.of_mail (Scene.mail_shown v.scene m)).of_postAll
    have echoed : v.scene.client.id = receiver := by
      simpa using (List.mem_filter.1 listed).2
    refine .inr ⟨_, (Table.find?_insert _ _ _ _).trans (if_pos rfl), same,
      .inl (echoed.symm.trans own), fun i => ?_, ?_⟩
    · exact (congrArg (·.charId? i) (Court.roster_postAll _ _ _)).trans
        (Scene.charId?_shown v.scene m i)
    · exact (Court.presence_postAll _ _ _).trans (Scene.presence_shown v.scene m)
  | @sends _ u said s next =>
    obtain ⟨same, waits⟩ := next.of_appended appended
    exact .inr ⟨_, (Table.find?_insert _ _ _ _).trans (if_pos rfl), same, .inr ⟨u, said, waits⟩,
      fun i => congrArg (·.charId? i) next.roster, next.presence⟩
  | ends live said done => exact absurd appended (f.court.not_appends_self receiver wire)

/-- No impersonation. Whenever the packet of a client puts speech or a track into someone's queue,
at once or after a wait, the client plays a character that nobody else in its area holds, and the
wire names this character, whatever the client claimed. The receiver of a track is in the client's
area. The receiver of speech is there as well, or was there when the speech began, and has had no
room for it since. -/
theorem not_impersonated (reached : Reached config f) (step : f.Next (some id) f')
    (appended : f.court.Appends f'.court receiver wire) :
    (Wire.Opens wire "MS" → ∃ charId area, f.court.Plays id area charId ∧
        f'.court.Plays id area charId ∧ Wire.argument? wire 8 = some (Text.decimal charId) ∧
        (f.court.presence.areaOf receiver = some area ∨
          f.Awaits id receiver ∧ TakenUp config f id receiver area)) ∧
      (Wire.Opens wire "MC" → ∃ charId area, f.court.Plays id area charId ∧
        f'.court.Plays id area charId ∧ Wire.argument? wire 1 = some (Text.decimal charId) ∧
        f.court.presence.areaOf receiver = some area) := by
  have sound := reached.sound
  rcases step.appended_cases sound appended with
    ⟨session, message, p, live, parsed, same⟩ | ⟨u, saying, rfl, waits, character, presence⟩
  · rw [same] at appended ⊢
    have signed {command : String} {i : Nat} (signature : Scene.signature? command = some i)
        (opens : Wire.Opens wire command) :=
      Gateway.signed_of_appended sound.orderly live parsed signature appended opens
    refine ⟨fun opens => ?_, fun opens => ?_⟩
    · obtain ⟨charId, area, before, after, beside, named⟩ := signed rfl opens
      exact ⟨charId, area, before, after, named, .inl beside⟩
    · obtain ⟨charId, area, before, after, beside, named⟩ := signed rfl opens
      exact ⟨charId, area, before, after, named, beside⟩
  · obtain ⟨session, live, plays, placed, packet, separated, command, signed, wire⟩ :=
      (sound.next step).signed id u saying
    rw [wire]
    refine ⟨fun _ => ?_, fun opens => ?_⟩
    · obtain ⟨area, here⟩ := Option.isSome_iff_exists.1 placed
      have after := (sound.next step).orderly.playing live here plays
      have before : f.court.Plays id area session.client.charId :=
        after.transfer (fun i => (character i).symm) presence.symm
      refine ⟨_, area, before, after, separated.argument?_toWire signed, ?_⟩
      rcases waits with rfl | ⟨u₀, said, waits⟩
      · exact .inl before.there
      · obtain ⟨own, there, taken⟩ := reached.exists_takenUp said
        cases before.there.symm.trans there
        exact .inr ⟨⟨u₀, said, waits⟩, taken receiver waits⟩
    · have track := separated.command_of_opens (by decide) opens
      exact absurd (command.symm.trans track) (by decide)

end Steps

section Hearing
open Gateway

/-- Those who are sent speech need not be where its sender is. -/
theorem not_always_beside :
    ¬ ∀ f f' id receiver wire, Reached roomy f → f.Next (some id) f' →
      f.court.Appends f'.court receiver wire → Wire.Opens wire "MS" →
      ∃ area, f.court.presence.areaOf id = some area ∧
        f.court.presence.areaOf receiver = some area := by
  intro always
  obtain ⟨-, -, f, f', wire, -, -, -, -, late, step, appended, opens, there, here⟩ :=
    exists_late_speech_hearing
  obtain ⟨area, speaks, listens⟩ := always f f' 1 0 wire late step appended opens
  cases there.symm.trans (listens.trans (speaks.symm.trans here))

/-- A track for which its sender claims the character of the first player. -/
def borrowed : Wire.Packet := ⟨"MC", ["Trial", "0", "Nick"]⟩

theorem not_impersonated_hearing :
    (∃ f f' wire, Reached roomy f ∧ f.Next (some 1) f' ∧ f.court.Appends f'.court 0 wire ∧
      Wire.Opens wire "MS" ∧ ∃ charId area, f.court.Plays 1 area charId ∧
        Wire.argument? wire 8 = some (Text.decimal charId)) ∧
      ∃ f', Next { gateway := hearing } (some 1) f' ∧
        hearing.hall.court.Appends f'.court 0 "MC#Trial#1#Nick#%" ∧
        Wire.Opens "MC#Trial#1#Nick#%" "MC" ∧ ∃ charId area,
          hearing.hall.court.Plays 1 area charId ∧
          Wire.argument? "MC#Trial#1#Nick#%" 1 = some (Text.decimal charId) ∧
          hearing.hall.court.presence.areaOf 0 = some area := by
  constructor
  · obtain ⟨-, -, f, f', wire, -, -, -, -, late, step, appended, opens, -, -⟩ :=
      exists_late_speech_hearing
    obtain ⟨charId, area, plays, -, named, -⟩ := (not_impersonated late step appended).1 opens
    exact ⟨f, f', wire, late, step, appended, opens, charId, area, plays, named⟩
  · have evaluated : (hearing.sessions.find? 1).map (fun session =>
        (decide (session.bucket.tokens ≠ 0), (hearing.courtAfter session borrowed).waitingFor 0)) =
        some (true, ["MC#Trial#1#Nick#%"]) := by
      decide +kernel
    have quiet : hearing.hall.court.waitingFor 0 = [] := by decide +kernel
    have track : Wire.Packet.parse? "MC#Trial#0#Nick" = some borrowed := by decide
    obtain ⟨session, live, known⟩ := Option.map_eq_some_iff.1 evaluated
    obtain ⟨saved, played⟩ := Prod.mk.inj known
    have step := Next.of_saved (f := { gateway := hearing }) live rfl (of_decide_eq_true saved)
      track (by decide)
    have appended : hearing.hall.court.Appends (hearing.courtAfter session borrowed) 0
        "MC#Trial#1#Nick#%" :=
      ⟨_, by rw [played, quiet, List.nil_append], List.mem_singleton_self _⟩
    have opens : Wire.Opens "MC#Trial#1#Nick#%" "MC" := ⟨"Trial#1#Nick#%".toList, by decide⟩
    obtain ⟨charId, area, plays, -, named, beside⟩ :=
      (not_impersonated reached_hearing step appended).2 opens
    exact ⟨_, step, appended, opens, charId, area, plays, named, beside⟩

end Hearing

end Floor
end CourtroomGateway
