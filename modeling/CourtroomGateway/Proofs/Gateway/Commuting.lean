import CourtroomGateway.Proofs.Gateway.Talk

/-! Talk in different areas commutes. A client who talks looks at its own area and at nobody
outside of it, and what is said there reaches nobody outside of it either. So what two clients say
in two areas is the same in either order, and leaves the same gateway. -/

namespace CourtroomGateway

/-- What is said with the two is not passed on in one area. -/
def Utterance.Apart (u v : Utterance) : Prop :=
  ∀ area p place q, u.relay = some (area, p) → v.relay = some (place, q) → area ≠ place

namespace Court

/-- What an utterance does to the mailbox of a client. -/
def receives (c : Court) (u : Utterance) (id : Nat) (m : Mailbox) : Mailbox :=
  match u.relay with
  | none => m
  | some (area, packet) => if id ∈ c.recipients area then m.offer packet.toWire else m

theorem find?_mail_utter (c : Court) (id : Nat) (u : Utterance) (i : Nat) :
    (c.utter id u).mail.find? i = (c.mail.find? i).map (c.receives u i) := by
  unfold utter receives
  cases u.relay with
  | none => exact (congrFun Option.map_id _).symm
  | some relay => exact find?_mail_postAll (c.nodup_recipients relay.1) c relay.2.toWire i

theorem find?_roster_utter (c : Court) (id : Nat) (u : Utterance) (i : Nat) :
    (c.utter id u).roster.find? i =
      if i = id then
        (c.roster.find? i).map fun profile => { profile with pose := u.pose.getD profile.pose }
      else c.roster.find? i := by
  unfold utter
  cases u.pose with
  | some pose => exact c.roster.find?_setPose id i pose
  | none =>
    by_cases own : i = id
    · rw [if_pos own]
      exact (congrFun Option.map_id _).symm
    · rw [if_neg own]

theorem contains_roster_utter (c : Court) (id : Nat) (u : Utterance) (i : Nat) :
    (c.utter id u).roster.contains i = c.roster.contains i := by
  rw [Roster.contains, Roster.contains, find?_roster_utter]
  split
  · exact Option.isSome_map
  · rfl

theorem recipients_utter (c : Court) (id : Nat) (u : Utterance) (area : Nat) :
    (c.utter id u).recipients area = c.recipients area := by
  rw [recipients, recipients, funext (c.contains_roster_utter id u)]
  rfl

theorem receives_utter (c : Court) (id : Nat) (v u : Utterance) (i : Nat) :
    (c.utter id v).receives u i = c.receives u i := by
  unfold receives
  simp only [recipients_utter]

theorem Roster.ext_find? {r r' : Roster} (nextId : r.nextId = r'.nextId)
    (find? : ∀ i, r.find? i = r'.find? i) : r = r' := by
  have profiles : r.profiles = r'.profiles := Table.ext_find? find?
  cases r
  cases r'
  cases nextId
  cases profiles
  rfl

theorem nextId_utter (c : Court) (id : Nat) (u : Utterance) :
    (c.utter id u).roster.nextId = c.roster.nextId := by
  unfold utter
  cases u.pose with
  | none => rfl
  | some pose => rfl

/-- Nobody receives what is said in two areas. -/
theorem receives_comm {c : Court} (consistent : c.presence.Consistent) {u v : Utterance}
    (apart : u.Apart v) (id : Nat) (m : Mailbox) :
    c.receives v id (c.receives u id m) = c.receives u id (c.receives v id m) := by
  unfold receives
  cases heard : u.relay with
  | none => rfl
  | some relay =>
    cases heard' : v.relay with
    | none => rfl
    | some relay' =>
      have elsewhere : relay.1 ≠ relay'.1 := apart _ _ _ _ heard heard'
      have once : id ∈ c.recipients relay.1 → id ∉ c.recipients relay'.1 := by
        intro listed listed'
        have here := (consistent.mem_clientsIn _ _).1 (List.mem_filter.1 listed).1
        have there := (consistent.mem_clientsIn _ _).1 (List.mem_filter.1 listed').1
        exact elsewhere (Option.some.inj (here.symm.trans there))
      by_cases listed : id ∈ c.recipients relay.1
      · simp only [if_pos listed, if_neg (once listed)]
      · simp only [if_neg listed]

theorem utter_right_comm {c : Court} (consistent : c.presence.Consistent) {i j : Nat}
    (other : i ≠ j) {u v : Utterance} (apart : u.Apart v) :
    (c.utter i u).utter j v = (c.utter j v).utter i u := by
  refine eq_of_parts (Roster.ext_find? ?_ fun k => ?_) rfl (Table.ext_find? fun k => ?_)
  · simp only [nextId_utter]
  · simp only [find?_roster_utter]
    by_cases first : k = i
    · subst first
      simp only [if_pos, if_neg other]
    · simp only [if_neg first]
  · have commuted : (c.receives v k) ∘ (c.receives u k) = (c.receives u k) ∘ (c.receives v k) :=
      funext (receives_comm consistent apart k)
    simp only [find?_mail_utter, Option.map_map, receives_utter, commuted]

end Court

theorem Hall.utter_right_comm {h : Hall} (consistent : h.court.presence.Consistent) {i j : Nat}
    (other : i ≠ j) {u v : Utterance} (apart : u.Apart v) :
    (h.utter i u).utter j v = (h.utter j v).utter i u := by
  have court := Court.utter_right_comm consistent other apart
  have metrics := h.metrics.enterAll_right_comm u.entries v.entries
  have clock := Nat.add_right_comm h.clock u.waits v.waits
  simp only [utter, court, metrics, clock]

namespace Court

theorem Delivery.waited_send_congr {d d' : Delivery} {id : Nat} (waited : d'.waited = d.waited)
    (room : d'.court.room id = d.court.room id) (wire : String) (timeout : Nat)
    (origin : Option Nat) :
    (d'.send wire timeout origin id).waited = (d.send wire timeout origin id).waited := by
  unfold send
  rw [room]
  split
  · exact waited
  split
  · exact waited
  · exact waited
  split
  · exact waited
  · rfl

/-- How long a delivery takes depends on the mailboxes of those who receive it. -/
theorem waited_publishReliable_congr {c c' : Court} {area : Nat}
    (recipients : c'.recipients area = c.recipients area)
    (mail : ∀ i ∈ c.recipients area, c'.mail.find? i = c.mail.find? i) (wire : String)
    (timeout : Nat) (origin : Option Nat) :
    (c'.publishReliable area wire timeout origin).waited =
      (c.publishReliable area wire timeout origin).waited := by
  have sent (ids : List Nat) (d d' : Delivery) (waited : d'.waited = d.waited)
      (mail : ∀ i ∈ ids, d'.court.mail.find? i = d.court.mail.find? i) :
      (ids.foldl (fun d id => d.send wire timeout origin id) d').waited =
        (ids.foldl (fun d id => d.send wire timeout origin id) d).waited := by
    induction ids generalizing d d' with
    | nil => exact waited
    | cons id ids ih =>
      obtain ⟨own, others⟩ := List.forall_mem_cons.1 mail
      have room : d'.court.room id = d.court.room id := by rw [Court.room, Court.room, own]
      refine ih _ _ (Delivery.waited_send_congr waited room wire timeout origin) ?_
      intro i listed
      rw [court_send, court_send, find?_mail_post, find?_mail_post, others i listed]
  unfold publishReliable
  rw [recipients]
  exact sent _ _ _ rfl mail

end Court

/-- The client finds the same in both scenes: itself, the configuration, who is where, and of
everyone in its own area the profile and the mailbox. -/
structure Scene.Sees (s t : Scene) : Prop where
  client : t.client = s.client
  config : t.hall.config = s.hall.config
  presence : t.hall.court.presence = s.hall.court.presence
  profiles : ∀ area, s.client.area = some area → ∀ i ∈ s.hall.court.presence.clientsIn area,
    t.hall.court.roster.find? i = s.hall.court.roster.find? i
  mail : ∀ area, s.client.area = some area → ∀ i ∈ s.hall.court.presence.clientsIn area,
    t.hall.court.mail.find? i = s.hall.court.mail.find? i

namespace Scene.Sees
variable {s t : Scene} (h : s.Sees t)
include h

theorem recipients {area : Nat} (here : s.client.area = some area) :
    t.hall.court.recipients area = s.hall.court.recipients area := by
  rw [Court.recipients, Court.recipients, h.presence]
  refine List.filter_congr fun i listed => ?_
  rw [Court.Roster.contains, Court.Roster.contains, h.profiles area here i listed]

theorem candidates {area : Nat} (here : s.client.area = some area) (except : Nat) :
    t.hall.court.candidates area except = s.hall.court.candidates area except := by
  rw [Court.candidates, Court.candidates, h.presence]
  refine List.filterMap_congr fun i listed => ?_
  rw [h.profiles area here i (List.mem_filter.1 listed).1]

theorem pairing {area : Nat} (here : s.client.area = some area) (m : Speech.Message) :
    Commands.Speaking.pairing t area m = Commands.Speaking.pairing s area m := by
  rw [Commands.Speaking.pairing, Commands.Speaking.pairing, h.client, h.candidates here]

theorem waited_delivery {area : Nat} (here : s.client.area = some area) (m : Speech.Message) :
    (t.delivery area m).waited = (s.delivery area m).waited := by
  -- The pose that is shown concerns neither the receivers nor their mailboxes.
  have shown (s : Scene) : ∃ pose : Option Speech.Pose,
      (Commands.Speaking.commitPose (Commands.Speaking.note s m) m).hall.court =
        s.hall.court.utter s.client.id { pose } := by
    unfold Commands.Speaking.commitPose
    split
    · exact ⟨some (.ofMessage m), rfl⟩
    · exact ⟨none, rfl⟩
  obtain ⟨pose, court⟩ := shown s
  obtain ⟨pose', court'⟩ := shown t
  have origin : (Commands.Speaking.note t m).client.id =
      (Commands.Speaking.note s m).client.id :=
    congrArg (·.id) h.client
  rw [delivery, delivery, court, court', Commands.Speaking.client_commitPose,
    Commands.Speaking.client_commitPose, origin, h.pairing here]
  refine Court.waited_publishReliable_congr ?_ (fun i listed => ?_) _ _ _
  · rw [Court.recipients_utter, Court.recipients_utter, h.recipients here]
  · rw [Court.recipients_utter] at listed
    exact h.mail area here i (List.mem_filter.1 listed).1

/-- What a packet of talk asks for does not depend on anyone else. -/
theorem request {p : Wire.Packet} (talk : s.hall.config.Talk p) : t.request p = s.request p := by
  have speech : Commands.speaking.decide t p = Commands.speaking.decide s p := by
    simp only [Commands.speaking, Commands.Speaking.judge, h.client]
  have chat : Commands.chatting.decide t p = Commands.chatting.decide s p := by
    simp only [Commands.chatting, Commands.Chatting.decide, h.client]
  have track : Commands.music.decide t p = Commands.music.decide s p := by
    simp only [Commands.music, Commands.Music.decide, h.client, h.config]
  cases talk with
  | speech command => simp [Scene.request, command, speech]
  | chat command => simp [Scene.request, command, chat]
  | track command noArea => simp [Scene.request, command, track]

theorem utterance_request {p : Wire.Packet} {request : Request} (talk : request.IsTalk)
    (decided : request.Decided s p) : request.utterance t = request.utterance s := by
  cases request with
  | joining act => exact talk.elim
  | character act => exact talk.elim
  | chatting act => rfl
  | music act =>
    cases act with
    | stay => exact talk.elim
    | move index area => exact talk.elim
    | play area track showname => simp only [Request.utterance, Request.relay?, h.client]
  | speaking act =>
    cases act with
    | unread error => rfl
    | silent m => rfl
    | spoken area m =>
      obtain ⟨-, here, -⟩ := Commands.Speaking.judge_spoken_iff.1 decided.2
      simp only [Request.utterance, Request.relay?, h.pairing here, h.waited_delivery here]

/-- Where a client finds the same, it says the same. -/
theorem utterance {p : Wire.Packet} (talk : s.hall.config.Talk p) :
    t.utterance p = s.utterance p := by
  unfold Scene.utterance
  rw [h.request talk]
  cases asked : s.request p with
  | error refusal => rfl
  | ok request =>
    have same := h.utterance_request (isTalk_of_request talk asked) (decided_of_request asked)
    simp only [same]

end Scene.Sees

/-- What someone outside of the client's area says goes unseen. -/
theorem Hall.sees_utter {h : Hall} (consistent : h.court.presence.Consistent) {c : Client}
    {id : Nat} (outside : ∀ area, c.area = some area → id ∉ h.court.presence.clientsIn area)
    {u : Utterance}
    (elsewhere : ∀ area packet, u.relay = some (area, packet) → c.area ≠ some area) :
    Scene.Sees ⟨h, c⟩ ⟨h.utter id u, c⟩ where
  client := rfl
  config := rfl
  presence := rfl
  profiles area here i there := by
    have other : i ≠ id := by
      rintro rfl
      exact outside area here there
    exact (h.court.find?_roster_utter id u i).trans (if_neg other)
  mail area here i there := by
    have missed : h.court.receives u i = fun m => m := by
      unfold Court.receives
      cases heard : u.relay with
      | none => rfl
      | some relay =>
        have unlisted : i ∉ h.court.recipients relay.1 := by
          intro listed
          have stands := (consistent.mem_clientsIn _ _).1 (List.mem_filter.1 listed).1
          have same := (consistent.mem_clientsIn _ _).1 there
          obtain rfl := Option.some.inj (stands.symm.trans same)
          exact elsewhere _ _ heard here
        funext m
        exact if_neg unlisted
    have said := h.court.find?_mail_utter id u i
    rw [missed, Option.map_id'] at said
    exact said

namespace Gateway

/-- What the packet of a session comes to. -/
def verdict (g : Gateway) (session : Session) (p : Wire.Packet) : Outcome :=
  (g.handlers.dispatch (g.visit session).scene p).outcome

/-- The gateway after an utterance of a session's client. -/
def utter (g : Gateway) (id : Nat) (session : Session) (u : Utterance) : Gateway where
  handlers := g.handlers
  hall := g.hall.utter id u
  sessions := g.sessions.insert id { session with client := session.client.utter u }

theorem utter_right_comm {g : Gateway} (consistent : g.hall.court.presence.Consistent)
    {i j : Nat} (other : i ≠ j) {u v : Utterance} (apart : u.Apart v) (first second : Session) :
    (g.utter i first u).utter j second v = (g.utter j second v).utter i first u := by
  have hall := Hall.utter_right_comm consistent other apart
  have sessions := Table.insert_comm other g.sessions
    { first with client := first.client.utter u } { second with client := second.client.utter v }
  simp only [utter, hall, sessions]

section Talk
variable {g : Gateway} (coherent : g.Coherent) {i : Nat} {first : Session}
  (live : g.sessions.find? i = some first) {p : Wire.Packet} (talk : g.hall.config.Talk p)
include coherent talk

theorem verdict_talk :
    g.verdict first p = Handlers.outcome ((g.visit first).scene.request p) := by
  have dispatched := Scene.dispatch_talk (s := (g.visit first).scene) talk
  rw [verdict, coherent.builtin, dispatched]

include live

theorem afterTurn_talk :
    g.afterTurn i first p = g.utter i first ((g.visit first).scene.utterance p) := by
  obtain ⟨rfl, -⟩ := coherent.own i first live
  have dispatched := Scene.dispatch_talk (s := (g.visit first).scene) talk
  rw [afterTurn, coherent.builtin, dispatched, after, utter]
  rfl

section Elsewhere
variable {j : Nat} {second : Session} (live' : g.sessions.find? j = some second) (other : j ≠ i)
  (apart : ∀ area, first.client.area = some area → second.client.area ≠ some area)
  {q : Wire.Packet} (talk' : g.hall.config.Talk q)
include apart

/-- A client in another area finds the same after talk. -/
theorem sees_afterTurn :
    (g.visit second).scene.Sees ((g.afterTurn i first p).visit second).scene := by
  obtain ⟨rfl, agrees⟩ := coherent.own i first live
  rw [afterTurn_talk coherent live talk]
  refine Hall.sees_utter coherent.consistent (fun area there listed => ?_) ?_
  · have placed := (coherent.consistent.mem_clientsIn _ _).1 listed
    exact apart area (agrees.place.symm.trans placed) there
  · intro area packet relayed
    exact apart area (Scene.area_of_relay relayed)

include live' other talk'

/-- It says what it would have said before, and is answered alike. -/
theorem talk_afterTurn :
    (g.afterTurn i first p).sessions.find? j = some second ∧
      (g.afterTurn i first p).verdict second q = g.verdict second q ∧
      (g.afterTurn i first p).afterTurn j second q =
        (g.utter i first ((g.visit first).scene.utterance p)).utter j second
          ((g.visit second).scene.utterance q) := by
  have sees := sees_afterTurn coherent live talk apart
  have coherent' := coherent.afterTurn live p
  have stays : (g.afterTurn i first p).sessions.find? j = some second := by
    rw [afterTurn, find?_after, if_neg other, live']
  have talk₁ : (g.afterTurn i first p).hall.config.Talk q := sees.config.symm ▸ talk'
  refine ⟨stays, ?_, ?_⟩
  · rw [verdict_talk coherent' talk₁, verdict_talk coherent talk', sees.request talk']
  · rw [afterTurn_talk coherent' stays talk₁, sees.utterance talk',
      afterTurn_talk coherent live talk]

end Elsewhere
end Talk

/-- In every state that can be reached, packets of talk from two clients in two areas have the
same outcomes in either order, and lead to the same gateway. -/
theorem talk_commutes {config : Config} {g : Gateway} (reached : Reached config g) {i j : Nat}
    {first second : Session} (live : g.sessions.find? i = some first)
    (live' : g.sessions.find? j = some second) {here there : Nat}
    (stands : first.client.area = some here) (stands' : second.client.area = some there)
    (apart : here ≠ there) {p q : Wire.Packet} (talk : config.Talk p) (talk' : config.Talk q) :
    ((g.afterTurn i first p).sessions.find? j = some second ∧
        (g.afterTurn j second q).sessions.find? i = some first) ∧
      (g.afterTurn j second q).verdict first p = g.verdict first p ∧
      (g.afterTurn i first p).verdict second q = g.verdict second q ∧
      (g.afterTurn i first p).afterTurn j second q =
        (g.afterTurn j second q).afterTurn i first p := by
  obtain ⟨coherent, -⟩ := reached.sound
  obtain ⟨same, -⟩ := reached.config_eq
  subst same
  have other : i ≠ j := by
    rintro rfl
    obtain rfl := Option.some.inj (live.symm.trans live')
    exact apart (Option.some.inj (stands.symm.trans stands'))
  have away : ∀ area, first.client.area = some area → second.client.area ≠ some area := by
    intro area same same'
    rw [stands] at same
    rw [stands'] at same'
    exact apart (Option.some.inj (same.trans same'.symm))
  obtain ⟨stays', verdict', after'⟩ :=
    talk_afterTurn coherent live talk live' other.symm away talk'
  obtain ⟨stays, verdict, after⟩ :=
    talk_afterTurn coherent live' talk' live other (fun area same' same => away area same same')
      talk
  have separate : Utterance.Apart ((g.visit first).scene.utterance p)
      ((g.visit second).scene.utterance q) := by
    rintro area packet place packet' relayed relayed' rfl
    exact away area (Scene.area_of_relay relayed) (Scene.area_of_relay relayed')
  refine ⟨⟨stays', stays⟩, verdict, verdict', ?_⟩
  rw [after', after]
  exact utter_right_comm coherent.consistent other separate first second

/-- Two clients are in the courtroom and one is in the lobby, and each has read what it was
told. -/
def sittings : Gateway :=
  doors.run
    [.arrive .tcp 0, .arrive .ws 0, .arrive .ws 0, feeds 0 "RD#%MC#Courtroom#0#%CC#0#0#%",
      feeds 1 "RD#%CC#1#0#%", feeds 2 "RD#%MC#Courtroom#0#%", .collect 0, .collect 1, .collect 2]

def serenade : Wire.Packet := ⟨"MC", ["Trial", "0"]⟩

theorem talk_commutes_sittings :
    Reached courthouse sittings ∧ ∃ first second,
      sittings.sessions.find? 0 = some first ∧ sittings.sessions.find? 1 = some second ∧
        first.client.area = some 1 ∧ second.client.area = some 0 ∧
        courthouse.Talk ⟨"MS", plea.render⟩ ∧ courthouse.Talk serenade ∧
        ((sittings.afterTurn 1 second serenade).afterTurn 0 first
          ⟨"MS", plea.render⟩).hall.court.waitingFor 1 = ["MC#Trial#0##%"] ∧
        (sittings.afterTurn 0 first ⟨"MS", plea.render⟩).afterTurn 1 second serenade =
          (sittings.afterTurn 1 second serenade).afterTurn 0 first ⟨"MS", plea.render⟩ := by
  have reached : Reached courthouse sittings := reached_run ofConfig_courthouse _
  have evaluated : ((sittings.sessions.find? 0).bind fun first =>
      (sittings.sessions.find? 1).map fun second =>
        (first.client.area, second.client.area,
          ((sittings.afterTurn 1 second serenade).afterTurn 0 first
            ⟨"MS", plea.render⟩).hall.court.waitingFor 1)) =
      some (some 1, some 0, ["MC#Trial#0##%"]) := by
    decide +kernel
  obtain ⟨first, live, rest⟩ := Option.bind_eq_some_iff.1 evaluated
  obtain ⟨second, live', all⟩ := Option.map_eq_some_iff.1 rest
  obtain ⟨stands, rest⟩ := Prod.mk.inj all
  obtain ⟨stands', waits⟩ := Prod.mk.inj rest
  have speech : courthouse.Talk ⟨"MS", plea.render⟩ := .speech rfl
  have track : courthouse.Talk serenade := by
    refine .track rfl fun raw sent a listed => ?_
    obtain rfl := Option.some.inj sent
    have others : ∀ a ∈ courthouse.areas, a.name ≠ Wire.unescape "Trial" := by decide +kernel
    exact others a listed
  obtain ⟨-, -, -, same⟩ :=
    talk_commutes reached live live' stands stands' (by decide) speech track
  exact ⟨reached, first, second, live, live', stands, stands', speech, track, waits, same⟩

end Gateway
end CourtroomGateway
