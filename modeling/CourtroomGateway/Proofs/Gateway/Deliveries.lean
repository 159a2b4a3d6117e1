import CourtroomGateway.Proofs.Config.Areas
import CourtroomGateway.Proofs.Gateway.Agreement
import CourtroomGateway.Proofs.Gateway.Wires

/-! Whose queues a packet reaches. Three commands make a broadcast, which puts one wire at the end
of every queue of the speaker's area that has room and leaves all other queues alone; any other
packet is answered to its sender at most. Nothing that waits is touched. This holds whatever the
receivers took out before, and also where some have gone away. -/

namespace CourtroomGateway

theorem Client.not_isSpectator_iff {c : Client} : ¬ c.isSpectator ↔ 0 ≤ c.charId := by
  simp [isSpectator, Int64.not_lt]

theorem Commands.Speaking.permits_iff {c : Client} {m : Speech.Message} :
    permits c m ↔ 0 ≤ c.charId ∧ m.cid = c.charId ∧ m.text.length ≤ longestText := by
  simp [permits, Client.isSpectator, Int64.not_lt, and_assoc]

namespace Scene

/-- The packet makes a broadcast of that packet to that area: a player speaks for the character it
holds, and not at length; a client chats; or a player has a track played that is no area. -/
inductive Broadcasts (s : Scene) (p : Wire.Packet) : Nat → Wire.Packet → Prop
  | speech {area : Nat} {m : Speech.Message} (command : p.command = "MS")
      (here : s.client.area = some area) (decoded : Speech.decode p.args = .ok m)
      (plays : 0 ≤ s.client.charId) (own : m.cid = s.client.charId)
      (brief : m.text.length ≤ 256) :
      Broadcasts s p area (m.broadcast (Commands.Speaking.pairing s area m))
  | chat {area : Nat} {name text : String} (command : p.command = "CT")
      (here : s.client.area = some area)
      (signed : name = Text.trim (p.args[0]?.getD "")) (named : name ≠ "")
      (said : text = Text.trim (p.args[1]?.getD "")) (written : text ≠ "") :
      Broadcasts s p area { command := "CT", args := [name, text, "0"] }
  | track {area : Nat} {track : String} (command : p.command = "MC")
      (here : s.client.area = some area)
      (asked : p.args.head?.map Wire.unescape = some track)
      (noArea : ∀ a ∈ s.hall.config.areas, a.name ≠ track)
      (offered : track ∈ s.hall.config.music) (plays : 0 ≤ s.client.charId) :
      Broadcasts s p area
        ((((Wire.Packet.named "MC").text track).int s.client.charId).arg (p.args[2]?.getD ""))

theorem broadcasts_of_decided {s : Scene} {p packet : Wire.Packet} {area : Nat} {request : Request}
    (decided : request.Decided s p) (relayed : request.relay? s = some (area, packet)) :
    s.Broadcasts p area packet := by
  cases request with
  | joining act => cases act <;> cases relayed
  | character act => cases relayed
  | chatting act =>
    cases relayed
    obtain ⟨command, decided⟩ := decided
    obtain ⟨here, signed, said, named, written⟩ := Commands.Chatting.decide_eq_ok_iff.1 decided
    exact .chat command here signed named said written
  | speaking act =>
    cases act with
    | unread error => cases relayed
    | silent m => cases relayed
    | spoken place m =>
      cases relayed
      obtain ⟨command, judged⟩ := decided
      obtain ⟨decoded, here, permitted⟩ := Commands.Speaking.judge_spoken_iff.1 judged
      obtain ⟨plays, own, brief⟩ := Commands.Speaking.permits_iff.1 permitted
      exact .speech command here decoded plays own brief
  | music act =>
    cases act with
    | stay => cases relayed
    | move index place => cases relayed
    | play place track showname =>
      cases relayed
      obtain ⟨command, decided⟩ := decided
      obtain ⟨asked, noArea, offered, here, plays, rfl⟩ :=
        Commands.Music.decide_play_iff.1 decided
      exact .track command here asked (Config.areaIndex?_eq_none_iff.1 noArea) offered
        (Client.not_isSpectator_iff.1 plays)

theorem Broadcasts.exists_decided {s : Scene} {p packet : Wire.Packet} {area : Nat}
    (h : s.Broadcasts p area packet) :
    ∃ request : Request, request.Decided s p ∧ request.relay? s = some (area, packet) := by
  cases h with
  | @speech m command here decoded plays own brief =>
    have permitted := Commands.Speaking.permits_iff.2 ⟨plays, own, brief⟩
    have judged := Commands.Speaking.judge_spoken_iff.2 ⟨decoded, here, permitted⟩
    exact ⟨.speaking (.spoken area m), ⟨command, judged⟩, rfl⟩
  | @chat name text command here signed named said written =>
    have decided : Commands.Chatting.decide s p = .ok ⟨area, name, text⟩ :=
      Commands.Chatting.decide_eq_ok_iff.2 ⟨here, signed, said, named, written⟩
    exact ⟨.chatting ⟨area, name, text⟩, ⟨command, decided⟩, rfl⟩
  | @track track command here asked noArea offered plays =>
    have decided : Commands.Music.decide s p = .ok (.play area track (p.args[2]?.getD "")) :=
      Commands.Music.decide_play_iff.2 ⟨asked, Config.areaIndex?_eq_none_iff.2 noArea, offered,
        here, Client.not_isSpectator_iff.2 plays, rfl⟩
    exact ⟨.music (.play area track _), ⟨command, decided⟩, rfl⟩

/-- What a turn passes on is what makes a broadcast. -/
theorem relay?_eq_some_iff {s : Scene} {p packet : Wire.Packet} {area : Nat} :
    s.relay? p = some (area, packet) ↔ s.Broadcasts p area packet := by
  constructor
  · intro relayed
    unfold relay? at relayed
    cases asked : s.request p with
    | error refusal => simp [asked] at relayed
    | ok request =>
      rw [asked] at relayed
      exact broadcasts_of_decided (decided_of_request asked) relayed
  · intro broadcasts
    obtain ⟨request, decided, relayed⟩ := broadcasts.exists_decided
    rw [relay?, request_eq_ok_iff.2 decided]
    exact relayed

theorem fills_dispatch (s : Scene) (p : Wire.Packet) :
    s.hall.court.Fills (Handlers.builtin.dispatch s p).scene.hall.court := by
  cases relayed : s.relay? p with
  | none =>
    obtain ⟨boxes, filled⟩ :=
      s.hall.court.fills_postEach s.client.id ((s.answers p).map (·.toWire))
    have mail := mail_dispatch_of_no_relay relayed
    constructor <;> rwa [mail]
  | some relay =>
    obtain ⟨boxes, filled⟩ :=
      s.hall.court.fills_postAll (s.hall.court.nodup_recipients relay.1) relay.2.toWire
    have mail := mail_dispatch_of_relay relayed
    constructor <;> rwa [mail]

end Scene

namespace Gateway

def withMail (g : Gateway) (mail : Table Nat Court.Mailbox) : Gateway :=
  { g with hall := { g.hall with court := { g.hall.court with mail } } }

/-- The states between any two turns of any run, with receivers that take wires, and go away, at
any time. -/
inductive Reached (config : Config) : Gateway → Prop
  | opened {g : Gateway} (accepted : Gateway.ofConfig .builtin config = .ok g) : Reached config g
  | step {g g' : Gateway} (before : Reached config g) (next : Step (fun _ _ => True) g g') :
      Reached config g'
  | received {g : Gateway} (before : Reached config g) (id : Nat)
      (f : Court.Mailbox → Court.Mailbox) (takes : ∀ m : Court.Mailbox, m.Received (f m)) :
      Reached config (g.withMail (g.hall.court.mail.modify id f))

theorem Reached.leads {config : Config} {g g' : Gateway} {admits : Scene → Wire.Packet → Prop}
    (h : Reached config g) (leads : Leads admits g g') : Reached config g' :=
  leads.keeps (Reached config)
    (fun _ _ before next => .step before (next.weaken fun _ _ _ => trivial)) h

theorem reached_run {config : Config} {g : Gateway}
    (opened : Gateway.ofConfig .builtin config = .ok g) (events : List Event) :
    Reached config (g.run events) := by
  have leads : Leads (fun _ _ => True) g (g.run events) :=
    g.leads_run events fun _ _ => trivial
  exact (Reached.opened opened).leads leads

/-- Every live session has a mailbox of the one size, and nobody else has any. -/
structure Boxed (g : Gateway) : Prop where
  boxes : ∀ id, g.hall.court.mail.contains id = g.sessions.contains id
  sized : ∀ id m, g.hall.court.mail.find? id = some m → m.capacity = Hall.mailboxCapacity

theorem Boxed.sized_of_fills {g : Gateway} (h : g.Boxed) {c : Court}
    (fills : g.hall.court.Fills c) {i : Nat} {m : Court.Mailbox}
    (found : c.mail.find? i = some m) : m.capacity = Hall.mailboxCapacity := by
  have before : g.hall.court.mail.contains i :=
    fills.boxes i ▸ Option.isSome_iff_exists.2 ⟨m, found⟩
  obtain ⟨m₀, there⟩ := Option.isSome_iff_exists.1 before
  obtain ⟨m', found', extended⟩ := fills.filled i m₀ there
  cases found.symm.trans found'
  exact extended.capacity.trans (h.sized i m₀ there)

theorem Boxed.after {g : Gateway} (h : g.Boxed) {id : Nat} {session : Session}
    (live : g.sessions.find? id = some session) {v : Visit}
    (fills : g.hall.court.Fills v.hall.court) : (g.after id v).Boxed where
  boxes i := (fills.boxes i).trans ((h.boxes i).trans (contains_after live v i).symm)
  sized _ _ := h.sized_of_fills fills

theorem Boxed.withMail {g : Gateway} (h : g.Boxed) (id : Nat)
    {f : Court.Mailbox → Court.Mailbox} (keeps : ∀ m, (f m).capacity = m.capacity) :
    (g.withMail (g.hall.court.mail.modify id f)).Boxed where
  boxes i := by
    refine Eq.trans ?_ (h.boxes i)
    simp only [Gateway.withMail, Table.contains, Table.find?_modify]
    split
    · exact Option.isSome_map
    · rfl
  sized i m found := by
    simp only [Gateway.withMail, Table.find?_modify] at found
    split at found
    · obtain ⟨m₀, there, rfl⟩ := Option.map_eq_some_iff.1 found
      exact (keeps m₀).trans (h.sized i m₀ there)
    · exact h.sized i m found

theorem Boxed.arrive {g : Gateway} (h : g.Boxed) (transport : Transport) (now : Nat) :
    (g.arrive transport now).2.Boxed := by
  unfold Gateway.arrive
  cases opened : g.hall.openSession transport now with
  | error refusal => exact h
  | ok v =>
    obtain ⟨-, -, -, -, mail, client⟩ := Hall.openSession_ok opened
    have id : v.session.client.id = g.hall.court.roster.nextId := by rw [client]
    have find? (i : Nat) : v.hall.court.mail.find? i =
        if i = g.hall.court.roster.nextId then
          some (Court.Mailbox.offer { capacity := Hall.mailboxCapacity }
            ((Wire.Packet.named "decryptor").nat 34).toWire)
        else g.hall.court.mail.find? i := by
      rw [mail, Court.find?_mail_post, Court.connect, Table.find?_insert]
      split <;> rfl
    constructor
    · intro i
      have boxes := h.boxes i
      simp only [Table.contains, find?, id, Table.find?_insert] at boxes ⊢
      split
      · rfl
      · exact boxes
    · intro i m found
      simp only [find?] at found
      split at found
      · cases found
        exact Court.Mailbox.capacity_offer _ _
      · exact h.sized i m found

theorem Boxed.depart {g : Gateway} (coherent : g.Coherent) (h : g.Boxed) (id : Nat) :
    (g.depart id).Boxed := by
  unfold Gateway.depart
  cases live : g.sessions.find? id with
  | none => exact h
  | some session =>
    have mail := g.hall.mail_endSession session.client
    rw [(coherent.own id session live).1] at mail
    constructor
    · intro i
      have boxes := h.boxes i
      simp only [mail, Table.contains, Table.find?_erase] at boxes ⊢
      split
      · rfl
      · exact boxes
    · intro i m found
      simp only [mail, Table.find?_erase] at found
      split at found
      · cases found
      · exact h.sized i m found

theorem Boxed.step {admits : Scene → Wire.Packet → Prop} {g g' : Gateway} (coherent : g.Coherent)
    (h : g.Boxed) (step : Step admits g g') : g'.Boxed := by
  have kept : g.hall.court.Fills g.hall.court :=
    ⟨fun _ => rfl, fun _ m found => ⟨m, found, .refl m⟩⟩
  cases step with
  | arrive transport now => exact h.arrive transport now
  | depart id => exact h.depart coherent id
  | tend live framer bucket => exact h.after live kept
  | overflow live => exact h.after live kept
  | drop live => exact h.after live kept
  | collect id => exact h.withMail id fun _ => rfl
  | wait milliseconds => exact ⟨h.boxes, h.sized⟩
  | @turn id session live message p parsed admitted =>
    rw [coherent.builtin]
    exact h.after live ((g.visit session).scene.fills_dispatch p)

theorem Reached.sound {config : Config} {g : Gateway} (h : Reached config g) :
    g.Coherent ∧ g.Boxed := by
  induction h with
  | opened accepted =>
    have coherent := coherent_ofConfig accepted
    obtain ⟨-, rfl⟩ := ofConfig_ok accepted
    exact ⟨coherent, fun _ => rfl, nofun⟩
  | step _ next ih => exact ⟨ih.1.step next, ih.2.step ih.1 next⟩
  | received _ id f takes ih =>
    exact ⟨ih.1.inHall _ rfl rfl rfl, ih.2.withMail id fun m => (takes m).capacity⟩

/-- The configuration was accepted, and stays. -/
theorem Reached.config_eq {config : Config} {g : Gateway} (h : Reached config g) :
    g.hall.config = config ∧ config.fault? = none := by
  induction h with
  | opened accepted =>
    obtain ⟨clean, rfl⟩ := ofConfig_ok accepted
    exact ⟨rfl, clean⟩
  | step before next ih => exact ⟨(config_step before.sound.1 next).trans ih.1, ih.2⟩
  | received _ id f takes ih => exact ih

/-- The client has a live session and knows itself to be in the area. -/
def Attends (g : Gateway) (area id : Nat) : Prop :=
  ∃ session, g.sessions.find? id = some session ∧ session.client.area = some area

theorem Coherent.mem_recipients_iff {g : Gateway} (h : g.Coherent) (area id : Nat) :
    id ∈ g.hall.court.recipients area ↔ g.Attends area id := by
  rw [Court.recipients, List.mem_filter, h.mem_clientsIn_iff]
  refine ⟨And.left, fun attends => ⟨attends, ?_⟩⟩
  obtain ⟨session, live, -⟩ := attends
  rw [h.seated, Table.contains, live]
  rfl

/-- The gateway after a turn of the client. -/
def afterTurn (g : Gateway) (id : Nat) (session : Session) (p : Wire.Packet) : Gateway :=
  g.after id ((g.visit session).withScene (g.handlers.dispatch (g.visit session).scene p).scene)

theorem Coherent.afterTurn {g : Gateway} (h : g.Coherent) {id : Nat} {session : Session}
    (live : g.sessions.find? id = some session) (p : Wire.Packet) :
    (g.afterTurn id session p).Coherent := by
  obtain ⟨-, agrees⟩ := h.own id session live
  rw [Gateway.afterTurn, h.builtin]
  have turned := (g.visit session).scene.turned_dispatch p
  exact h.after live turned.spares (turned.agrees agrees)

/-- The court after a packet was dispatched for a session. -/
def courtAfter (g : Gateway) (session : Session) (p : Wire.Packet) : Court :=
  (g.handlers.dispatch (g.visit session).scene p).scene.hall.court

/-- The wire was put at the end of every mailbox of the area that takes it; the mailboxes that are
full or have no receiver, and all that belong to nobody in the area, are as they were. -/
structure Delivered (g : Gateway) (area : Nat) (wire : String) (c : Court) : Prop where
  appended : ∀ i m, g.Attends area i → g.hall.court.mail.find? i = some m →
    m.listening → m.waiting.length < m.capacity →
    ∃ m', c.mail.find? i = some m' ∧ m'.waiting = m.waiting ++ [wire]
  passedOver : ∀ i m, g.Attends area i → g.hall.court.mail.find? i = some m →
    ¬ m.listening ∨ m.waiting.length = m.capacity → c.mail.find? i = some m
  spared : ∀ i, ¬ g.Attends area i → c.mail.find? i = g.hall.court.mail.find? i

theorem Coherent.delivered {g : Gateway} (h : g.Coherent) {session : Session}
    {p packet : Wire.Packet} {area : Nat}
    (broadcasts : (g.visit session).scene.Broadcasts p area packet) :
    g.Delivered area packet.toWire (g.courtAfter session p) := by
  have mail := Scene.mail_dispatch_of_relay (Scene.relay?_eq_some_iff.2 broadcasts)
  have find? (i : Nat) : (g.courtAfter session p).mail.find? i = (g.hall.court.mail.find? i).map
      fun m => if i ∈ g.hall.court.recipients area then m.offer packet.toWire else m := by
    rw [courtAfter, h.builtin, mail]
    exact Court.find?_mail_postAll (g.hall.court.nodup_recipients area) _ _ i
  constructor
  · intro i m attends found listening room
    have listed := (h.mem_recipients_iff area i).2 attends
    have free : m.room = .free := by simp [Court.Mailbox.room, listening, room]
    refine ⟨m.offer packet.toWire, ?_, ?_⟩
    · rw [find?, found, Option.map_some, if_pos listed]
    · rw [Court.Mailbox.waiting_offer, if_pos free]
  · intro i m attends found unfit
    have listed := (h.mem_recipients_iff area i).2 attends
    have stuck : m.room ≠ .free := by
      rcases unfit with gone | full
      · simp [Court.Mailbox.room, gone]
      · by_cases listening : m.listening <;> simp [Court.Mailbox.room, full, listening]
    rw [find?, found, Option.map_some, if_pos listed, Court.Mailbox.offer_of_not_free stuck]
  · intro i elsewhere
    have unlisted := mt (h.mem_recipients_iff area i).1 elsewhere
    simp only [find?, if_neg unlisted, Option.map_id']

theorem Coherent.mail_of_no_broadcast {g : Gateway} (h : g.Coherent) {id : Nat}
    {session : Session} (live : g.sessions.find? id = some session) {p : Wire.Packet}
    (quiet : ∀ area packet, ¬ (g.visit session).scene.Broadcasts p area packet) {i : Nat}
    (apart : i ≠ id) :
    (g.courtAfter session p).mail.find? i = g.hall.court.mail.find? i := by
  have kept : (g.visit session).scene.relay? p = none := by
    rw [Option.eq_none_iff_forall_ne_some]
    intro relay relayed
    exact quiet relay.1 relay.2 (Scene.relay?_eq_some_iff.1 relayed)
  have mail := Scene.mail_dispatch_of_no_relay kept
  have named : (g.visit session).scene.client.id = id := (h.own id session live).1
  rw [courtAfter, h.builtin, mail, Court.find?_mail_postEach, named]
  simp only [if_neg apart, Option.map_id']
  rfl

/-- In every state that can be reached, a packet that makes a broadcast puts one wire into the
queues of its sender's area and nowhere else, any other packet reaches no queue but its sender's,
and neither takes anything out of a queue or overfills one. -/
theorem delivery_confined {config : Config} {g : Gateway} (reached : Reached config g) {id : Nat}
    {session : Session} (live : g.sessions.find? id = some session) (p : Wire.Packet) :
    (∀ area packet, (g.visit session).scene.Broadcasts p area packet →
        g.Attends area id ∧ g.Delivered area packet.toWire (g.courtAfter session p)) ∧
      ((∀ area packet, ¬ (g.visit session).scene.Broadcasts p area packet) →
        ∀ i, i ≠ id → (g.courtAfter session p).mail.find? i = g.hall.court.mail.find? i) ∧
      g.hall.court.mail.keys = g.sessions.keys ∧
      g.hall.court.Fills (g.courtAfter session p) ∧
      ∀ i m, (g.courtAfter session p).mail.find? i = some m →
        m.capacity = Hall.mailboxCapacity ∧ m.waiting.length ≤ Hall.mailboxCapacity := by
  obtain ⟨coherent, boxed⟩ := reached.sound
  have fills : g.hall.court.Fills (g.courtAfter session p) := by
    rw [courtAfter, coherent.builtin]
    exact (g.visit session).scene.fills_dispatch p
  refine ⟨fun area packet broadcasts => ⟨?_, coherent.delivered broadcasts⟩,
    fun quiet i apart => coherent.mail_of_no_broadcast live quiet apart,
    Table.keys_eq_of_contains boxed.boxes, fills, fun i m found => ?_⟩
  · have here : session.client.area = some area := by cases broadcasts <;> assumption
    exact ⟨session, live, here⟩
  · have capacity := boxed.sized_of_fills fills found
    exact ⟨capacity, capacity ▸ m.waiting_le⟩

/-- Three clients are in the lobby, and a fourth has not entered. -/
def gathering : List Event :=
  [.arrive .tcp 0, .arrive .ws 0, .arrive .ws 0, .arrive .tcp 0, feeds 0 "RD#%", feeds 1 "RD#%",
    feeds 2 "RD#%", .collect 0, .collect 1, .collect 2, .collect 3]

/-- The receiver of the third client is gone. -/
def hushed : Gateway :=
  (doors.run gathering).withMail ((doors.run gathering).hall.court.mail.modify 2 (·.close))

def hail : Wire.Packet := ⟨"CT", ["Nick", " Objection! "]⟩

theorem delivery_confined_hushed :
    Reached courthouse hushed ∧ ∃ session, hushed.sessions.find? 0 = some session ∧
      (hushed.courtAfter session hail).waitingFor 0 = ["CT#Nick#Objection!#0#%"] ∧
      (hushed.courtAfter session hail).waitingFor 1 = ["CT#Nick#Objection!#0#%"] ∧
      (hushed.courtAfter session hail).waitingFor 2 = [] ∧
      (hushed.courtAfter session hail).waitingFor 3 = [] := by
  have reached : Reached courthouse hushed :=
    .received (reached_run ofConfig_courthouse gathering) 2 _ Court.Mailbox.received_close
  have attends (i : Nat) (here : (hushed.sessions.find? i).map (·.client.area) = some (some 0)) :
      hushed.Attends 0 i := Option.map_eq_some_iff.1 here
  obtain ⟨session, live, here⟩ := attends 0 (by rfl)
  have broadcasts : (hushed.visit session).scene.Broadcasts hail 0
      ⟨"CT", ["Nick", "Objection!", "0"]⟩ :=
    .chat rfl here (by decide) (by decide) (by decide) (by decide)
  obtain ⟨-, appended, passedOver, spared⟩ := (delivery_confined reached live hail).1 0 _ broadcasts
  have wire :
      Wire.Packet.toWire ⟨"CT", ["Nick", "Objection!", "0"]⟩ = "CT#Nick#Objection!#0#%" := by
    decide
  rw [wire] at appended
  obtain ⟨m₀, found₀, waits₀⟩ :=
    appended 0 { capacity := 1024 } (attends 0 (by rfl)) (by rfl) (by decide) (by decide)
  obtain ⟨m₁, found₁, waits₁⟩ :=
    appended 1 { capacity := 1024 } (attends 1 (by rfl)) (by rfl) (by decide) (by decide)
  have found₂ := passedOver 2 { capacity := 1024, listening := false } (attends 2 (by rfl)) (by rfl)
    (by decide)
  have found₃ : (hushed.courtAfter session hail).mail.find? 3 = some { capacity := 1024 } := by
    refine (spared 3 fun attends => ?_).trans (by rfl)
    obtain ⟨other, live, here⟩ := attends
    have nowhere : (hushed.sessions.find? 3).map (·.client.area) = some none := by rfl
    rw [live] at nowhere
    cases (Option.some.inj nowhere).symm.trans here
  refine ⟨reached, session, live, ?_, ?_, ?_, ?_⟩
  · rw [Court.waitingFor, found₀, Option.map_some, waits₀]
    rfl
  · rw [Court.waitingFor, found₁, Option.map_some, waits₁]
    rfl
  · rw [Court.waitingFor, found₂]
    rfl
  · rw [Court.waitingFor, found₃]
    rfl

end Gateway
end CourtroomGateway
