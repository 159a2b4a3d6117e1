import CourtroomGateway.Proofs.Floor.Runs
import CourtroomGateway.Proofs.Gateway.Handling

/-! How a wire comes late. A client that asks and takes no answers fills its own mailbox. Speech
that is sent to it then has to wait, and while it waits the client may go to another area. When it
takes what waits there at last, the wire follows. -/

namespace CourtroomGateway

/-- A bucket that was just refilled pays while it has tokens. -/
theorem Flood.Bucket.check_refilled {b : Flood.Bucket} (saved : b.tokens ≠ 0) :
    b.check b.refilled = (.pass, { b with tokens := b.tokens - 1 }) := by
  have early : b.refilled - b.refilled < minimumWait := by
    rw [Nat.sub_self]
    decide
  simp only [check, refill?, if_pos early, take, if_neg saved]

theorem Visit.packet?_of_saved {v : Visit} (saved : v.session.bucket.tokens ≠ 0)
    (message : String) :
    v.packet? v.session.bucket.refilled message = Wire.Packet.parse? message := by
  rw [packet?, Flood.Bucket.check_refilled saved]

/-- A client asks for the counts, and they are put into its mailbox. -/
theorem Scene.dispatch_counts (s : Scene) :
    (Handlers.builtin.dispatch s ⟨"askchaa", []⟩).scene =
      Handlers.recordDuration "askchaa" s.hall.clock
        (s.reply (Commands.Joining.countPacket s.hall.config)) := by
  have decided : (Request.joining .counts).Decided s ⟨"askchaa", []⟩ := ⟨by decide, rfl⟩
  rw [Handlers.dispatch_builtin, request_eq_ok_iff.2 decided]
  rfl

namespace Floor

/-- The floor with other mail and metrics, and with another bucket for the client. -/
def burdened (f : Floor) (id : Nat) (session : Session) (mail : Table Nat Court.Mailbox)
    (metrics : Metrics) (bucket : Flood.Bucket) : Floor :=
  { f with
    gateway :=
      { f.gateway with
        hall := { f.gateway.hall with court := { f.court with mail }, metrics }
        sessions := f.gateway.sessions.insert id { session with bucket } } }

section Crowding
variable {config : Config} {f : Floor} {id : Nat} {session : Session}

theorem burdened_burdened (mail mail' : Table Nat Court.Mailbox) (metrics metrics' : Metrics)
    (bucket bucket' : Flood.Bucket) :
    (f.burdened id session mail metrics bucket).burdened id { session with bucket } mail' metrics'
        bucket' =
      f.burdened id session mail' metrics' bucket' := by
  simp only [burdened, Table.insert_insert]
  rfl

theorem live_burdened (mail : Table Nat Court.Mailbox) (metrics : Metrics)
    (bucket : Flood.Bucket) :
    (f.burdened id session mail metrics bucket).gateway.sessions.find? id =
      some { session with bucket } :=
  (Table.find?_insert _ _ _ _).trans (if_pos rfl)

/-- A client that is silent and can pay for it has its turn, with any packet but speech. -/
theorem Next.of_saved (live : f.gateway.sessions.find? id = some session)
    (silent : f.speaking.find? id = none) (saved : session.bucket.tokens ≠ 0) {message : String}
    {p : Wire.Packet} (parsed : Wire.Packet.parse? message = some p) (quiet : p.command ≠ "MS") :
    f.Next (some id)
      { f with
        gateway :=
          f.gateway.after id
            (((f.gateway.visit session).charged session.bucket.refilled).withScene
              (f.gateway.handlers.dispatch (f.gateway.visit session).scene p).scene) } := by
  let v := f.gateway.visit session
  have heard : v.packet? session.bucket.refilled message = some p :=
    (Visit.packet?_of_saved saved message).trans parsed
  have unspoken (q : Wire.Packet) (area : Nat) (m : Speech.Message)
      (found : v.packet? session.bucket.refilled message = some q) :
      ¬ v.scene.SpeaksOut q area m := by
    cases heard.symm.trans found
    exact fun speaks => quiet speaks.1
  have step : f.Next (some id) _ := .handles live silent unspoken
  rwa [Visit.handle_of_packet heard] at step

/-- A client that can pay for it asks, and is answered. -/
theorem Reached.exists_asked (reached : Reached config f)
    (live : f.gateway.sessions.find? id = some session) (silent : f.speaking.find? id = none)
    (saved : session.bucket.tokens ≠ 0) :
    ∃ wire metrics, Reached config (f.burdened id session (f.court.post id wire).mail metrics
      { session.bucket with tokens := session.bucket.tokens - 1 }) := by
  obtain ⟨rfl, -⟩ := reached.sound.orderly.coherent.own id session live
  have parsed : Wire.Packet.parse? "askchaa" = some ⟨"askchaa", []⟩ := by decide
  have asked := reached.next (.of_saved live silent saved parsed (by decide))
  rw [reached.sound.orderly.coherent.builtin, Scene.dispatch_counts, Visit.charged,
    Flood.Bucket.check_refilled saved] at asked
  exact ⟨_, _, asked⟩

/-- The mailbox of a client that asks again and again gets as full as it can be. -/
theorem Reached.exists_crowded (reached : Reached config f)
    (live : f.gateway.sessions.find? id = some session) (silent : f.speaking.find? id = none)
    {m : Court.Mailbox} (boxed : f.court.mail.find? id = some m) (listening : m.listening)
    {n : Nat} (saved : n ≤ session.bucket.tokens.toNat) :
    ∃ mail metrics bucket m', Reached config (f.burdened id session mail metrics bucket) ∧
      bucket.tokens.toNat + n = session.bucket.tokens.toNat ∧ mail.find? id = some m' ∧
      m'.listening ∧ m'.capacity = m.capacity ∧ min m.capacity n ≤ m'.waiting.length := by
  induction n with
  | zero =>
    have same : f.burdened id session f.court.mail f.gateway.hall.metrics session.bucket = f :=
      congrArg (Floor.mk · f.speaking) (Gateway.after_self live)
    exact ⟨_, _, _, m, same.symm ▸ reached, rfl, boxed, listening, rfl,
      Nat.le_trans (Nat.le_of_eq (Nat.min_zero _)) (Nat.zero_le _)⟩
  | succ n ih =>
    obtain ⟨mail, metrics, bucket, m', before, left, boxed', listening', capacity, crowded⟩ :=
      ih (Nat.le_of_succ_le saved)
    have some : bucket.tokens.toNat ≠ 0 := by omega
    have enough : bucket.tokens ≠ 0 := fun none => some (none ▸ rfl)
    obtain ⟨wire, metrics', after⟩ :=
      before.exists_asked (live_burdened mail metrics bucket) silent enough
    rw [burdened_burdened] at after
    refine ⟨_, _, _, m'.offer wire, after, ?_, ?_, ?_, ?_, ?_⟩
    · have one : (1 : UInt32) ≤ bucket.tokens :=
        UInt32.le_iff_toNat_le.2 (Nat.one_le_iff_ne_zero.2 some)
      have paid : (bucket.tokens - 1).toNat = bucket.tokens.toNat - 1 :=
        UInt32.toNat_sub_of_le _ _ one
      dsimp only
      omega
    · rw [Court.find?_mail_post, if_pos rfl]
      exact congrArg _ boxed'
    · rwa [Court.Mailbox.listening_offer]
    · rwa [Court.Mailbox.capacity_offer]
    · rw [Court.Mailbox.waiting_offer]
      split
      next free =>
        rw [List.length_append, List.length_singleton]
        omega
      next full =>
        have room : m'.capacity ≤ m'.waiting.length := by
          by_contra room
          exact full (by simp [Court.Mailbox.room, listening', room])
        omega

/-- A client that takes nothing out of its mailbox can fill it, as long as it can pay. -/
theorem Reached.exists_full (reached : Reached config f)
    (live : f.gateway.sessions.find? id = some session) (silent : f.speaking.find? id = none)
    {m : Court.Mailbox} (boxed : f.court.mail.find? id = some m) (listening : m.listening)
    (saved : m.capacity < session.bucket.tokens.toNat) :
    ∃ mail metrics bucket m', Reached config (f.burdened id session mail metrics bucket) ∧
      bucket.tokens ≠ 0 ∧ mail.find? id = some m' ∧ m'.listening ∧ m'.capacity = m.capacity ∧
      m'.room = .full := by
  obtain ⟨mail, metrics, bucket, m', after, left, boxed', listening', capacity, crowded⟩ :=
    reached.exists_crowded live silent boxed listening (Nat.le_of_lt saved)
  refine ⟨mail, metrics, bucket, m', after, ?_, boxed', listening', capacity, ?_⟩
  · rintro spent
    rw [spent, UInt32.toNat_zero] at left
    omega
  · rw [Nat.min_self, ← capacity] at crowded
    rw [Court.Mailbox.room, if_pos listening', if_neg (Nat.not_lt.2 crowded)]

end Crowding

/-- A client that is still to be sent what another one says may go to another area first. When it
takes what waits for it there, the wire follows. -/
theorem Reached.exists_late {config : Config} {f : Floor} (reached : Reached config f)
    {id receiver : Nat} {u : Outgoing} (saying : f.speaking.find? id = some u)
    (waits : receiver ∈ u.pending) {session : Session}
    (live : f.gateway.sessions.find? receiver = some session)
    (silent : f.speaking.find? receiver = none) (saved : session.bucket.tokens ≠ 0)
    {message : String} {p : Wire.Packet} (parsed : Wire.Packet.parse? message = some p)
    {index : Nat} {area : Area}
    (moves : (Request.music (.move index area)).Decided (f.gateway.visit session).scene p)
    {m : Court.Mailbox} (boxed : f.court.mail.find? receiver = some m) (listening : m.listening)
    (sized : 0 < m.capacity) :
    ∃ f' f'', Reached config f' ∧ Persists id f f' ∧ f'.Next (some id) f'' ∧
      f'.court.Appends f''.court receiver u.wire ∧
      f'.court.presence.areaOf receiver = some index ∧
      f'.court.presence.areaOf id = f.court.presence.areaOf id := by
  let s := (f.gateway.visit session).scene
  let w := ((f.gateway.visit session).charged session.bucket.refilled).withScene
    (Handlers.builtin.dispatch s p).scene
  let f₁ : Floor := { f with gateway := f.gateway.after receiver w }
  let f₂ := f₁.inCourt { f₁.court with mail := f₁.court.mail.modify receiver (·.drain) }
  have orderly := reached.sound.orderly
  obtain ⟨own, -⟩ := orderly.coherent.own receiver session live
  have apart : id ≠ receiver := by
    rintro rfl
    cases silent.symm.trans saying
  have track : p.command ≠ "MS" := fun command => absurd (command.symm.trans moves.1) (by decide)
  have step : f.Next (some receiver) f₁ := by
    have turn := Next.of_saved live silent saved parsed track
    rwa [orderly.coherent.builtin] at turn
  have moved := reached.next step
  have there : f₁.court.presence.areaOf receiver = some index := by
    have enters : (Handlers.builtin.dispatch s p).scene.client.area = some index := by
      rw [Handlers.dispatch_builtin, Scene.request_eq_ok_iff.2 moves]
      exact (s.alike_enter index area []).area
    obtain ⟨own, agrees⟩ :=
      moved.sound.orderly.coherent.own receiver w.session (Gateway.live_after _ _ _)
    exact (own ▸ agrees.place).trans enters
  have stays : f₁.court.presence.areaOf id = f.court.presence.areaOf id :=
    (s.turned_dispatch p).spares.place id (own ▸ apart)
  have takes : f₁.Next none f₂ := .receives receiver _ Court.Mailbox.received_drain
  have free : f₂.court.room receiver = .free := by
    obtain ⟨m', boxed', same⟩ := (s.fills_dispatch p).filled receiver m boxed
    have emptied : f₂.court.mail.find? receiver = some m'.drain := by
      refine (Table.find?_modify _ _ _ _).trans ?_
      rw [if_pos rfl]
      exact congrArg (Option.map _) boxed'
    have hears : m'.drain.listening := same.listening.trans listening
    have room : m'.drain.waiting.length < m'.drain.capacity := same.capacity.symm ▸ sized
    simp [Court.room, emptied, Court.Mailbox.room, hears, room]
  have still : f.speaking.contains id := by rw [Table.contains, saying]; rfl
  have next : (f₂.sending u).Next u.wire Commands.speechTimeout _ := .sent waits free
  have going : f₂.speaking.find? id = some u := saying
  have sends : f₂.Next (some id) _ := .sends going next
  have posted : (f₂.court.post receiver u.wire).waitingFor receiver =
      f₂.court.waitingFor receiver ++ [u.wire] :=
    (f₂.court.waitingFor_post receiver receiver u.wire).trans (if_pos ⟨rfl, free⟩)
  exact ⟨f₂, _, moved.next takes, .next (.next .here step still) takes still, sends,
    ⟨[u.wire], posted, List.mem_singleton_self _⟩, there, stays⟩

/-- Speech begins while someone in the area listens, who may be elsewhere when the wire comes. -/
theorem Reached.exists_late_speech {config : Config} {f : Floor} (reached : Reached config f)
    {id receiver : Nat} (apart : receiver ≠ id) {speaker listener : Session}
    (live : f.gateway.sessions.find? id = some speaker) (silent : f.speaking.find? id = none)
    {now : Nat} {message : String} {p : Wire.Packet}
    (heard : (f.gateway.visit speaker).packet? now message = some p) {area : Nat}
    {m : Speech.Message} (speaks : (f.gateway.visit speaker).scene.SpeaksOut p area m)
    (live' : f.gateway.sessions.find? receiver = some listener)
    (silent' : f.speaking.find? receiver = none) (beside : listener.client.area = some area)
    (saved : listener.bucket.tokens ≠ 0) {message' : String} {q : Wire.Packet}
    (parsed : Wire.Packet.parse? message' = some q) {index : Nat} {place : Area}
    (moves : (Request.music (.move index place)).Decided (f.gateway.visit listener).scene q)
    {box : Court.Mailbox} (boxed : f.court.mail.find? receiver = some box)
    (listening : box.listening) (sized : 0 < box.capacity) :
    ∃ f₁ f' f'' wire, f.Begins id f₁ ∧ Persists id f₁ f' ∧ Reached config f' ∧
      f'.Next (some id) f'' ∧ f'.court.Appends f''.court receiver wire ∧ Wire.Opens wire "MS" ∧
      f'.court.presence.areaOf receiver = some index ∧
      f'.court.presence.areaOf id = some area := by
  let s := (f.gateway.visit speaker).scene
  let f₁ := f.begun id ((f.gateway.visit speaker).charged now) area m
  have coherent := reached.sound.orderly.coherent
  obtain ⟨own, agrees⟩ := coherent.own id speaker live
  have begins : f.Begins id f₁ := .of live silent heard speaks
  have began : Reached config f₁ := reached.next (.begins live silent heard speaks)
  have saying : f₁.speaking.find? id = some _ := (Table.find?_insert _ _ _ _).trans (if_pos rfl)
  have waits : receiver ∈ (s.sending area m).pending :=
    Scene.mem_pending_iff.2
      ⟨(coherent.mem_recipients_iff area receiver).2 ⟨listener, live', beside⟩, own.symm ▸ apart⟩
  have live₁ : f₁.gateway.sessions.find? receiver = some listener :=
    (Gateway.find?_after _ _ _ _).trans ((if_neg apart).trans live')
  have silent₁ : f₁.speaking.find? receiver = none :=
    (Table.find?_insert _ _ _ _).trans ((if_neg apart).trans silent')
  have config : f₁.gateway.hall.config = f.gateway.hall.config :=
    (Scene.turned_speakUp speaks).spares.config
  have decided : Commands.Music.decide (f₁.gateway.visit listener).scene q =
      Commands.Music.decide (f.gateway.visit listener).scene q := by
    refine Commands.Music.decide_congr config ?_ q
    rfl
  have moves₁ : (Request.music (.move index place)).Decided (f₁.gateway.visit listener).scene q :=
    ⟨moves.1, decided.trans moves.2⟩
  obtain ⟨box', boxed', same⟩ := (s.fills_speakUp area m).filled receiver box boxed
  obtain ⟨f', f'', late, persists, step, appended, there, stays⟩ :=
    began.exists_late saying waits live₁ silent₁ saved parsed moves₁ boxed'
      (same.listening.trans listening) (same.capacity.symm ▸ sized)
  have here : f₁.court.presence.areaOf id = some area := by
    obtain ⟨-, named, -⟩ := Commands.Speaking.judge_spoken_iff.1 speaks.2
    have kept : f₁.court.presence = f.court.presence :=
      (Court.presence_postAll _ _ _).trans (s.presence_shown m)
    rw [kept]
    exact (own ▸ agrees.place).trans named
  exact ⟨f₁, f', f'', _, begins, persists, late, step, appended, Wire.Packet.opens_toWire _, there,
    stays.trans here⟩

section Hearing
open Gateway

/-- A configuration whose clients may send much at once. -/
def roomy : Config := { courthouse with flood := { rate := 1, burst := 2048 } }

/-- Two clients are in the lobby, and the second plays. -/
def hearing : Gateway :=
  (unvisited roomy).run
    [.arrive .tcp 0, .arrive .ws 0, feeds 0 "RD#%", feeds 1 "CC#1#1#%RD#%", .collect 0]

/-- Speech of the second client, whose character is not in its shortest form. -/
def hello : Wire.Packet :=
  ⟨"MS", ["1", "-", "Miles", "smirk", "Hello", "wit", "0", "0", " +1", "0", "0", "0", "0", "0",
    "0"]⟩

/-- The speech as it is read. -/
def greeting : Speech.Message := (Speech.Message.readAll .pre26 hello.args).clampDing

theorem decode_hello : Speech.decode hello.args = .ok greeting := by decide +kernel

theorem reached_hearing : Reached roomy { gateway := hearing } :=
  reached_run (ofConfig_of_clean (by decide)) _

theorem exists_listener :
    ∃ session box, hearing.sessions.find? 0 = some session ∧ session.client.area = some 0 ∧
      hearing.hall.court.mail.find? 0 = some box ∧ box.listening ∧ box.capacity = 1024 ∧
      box.capacity < session.bucket.tokens.toNat := by
  have known : (hearing.sessions.find? 0).map (fun session =>
      (session.client.area, decide (1024 < session.bucket.tokens.toNat))) =
      some (some 0, true) := by
    decide +kernel
  have mailbox : (hearing.hall.court.mail.find? 0).map (fun box => (box.listening, box.capacity)) =
      some (true, 1024) := by
    decide +kernel
  obtain ⟨session, live, both⟩ := Option.map_eq_some_iff.1 known
  obtain ⟨box, boxed, fits⟩ := Option.map_eq_some_iff.1 mailbox
  obtain ⟨here, saved⟩ := Prod.mk.inj both
  obtain ⟨listening, capacity⟩ := Prod.mk.inj fits
  exact ⟨session, box, live, here, boxed, listening, capacity,
    capacity.symm ▸ of_decide_eq_true saved⟩

theorem exists_speaker :
    ∃ session, hearing.sessions.find? 1 = some session ∧ session.bucket.tokens ≠ 0 ∧
      session.client.area = some 0 ∧ Commands.Speaking.permits session.client greeting := by
  have known : (hearing.sessions.find? 1).map (fun session =>
      (decide (session.bucket.tokens ≠ 0), session.client.area,
        Commands.Speaking.permits session.client greeting)) = some (true, some 0, true) := by
    decide +kernel
  obtain ⟨session, live, all⟩ := Option.map_eq_some_iff.1 known
  obtain ⟨pays, both⟩ := Prod.mk.inj all
  obtain ⟨here, permits⟩ := Prod.mk.inj both
  exact ⟨session, live, of_decide_eq_true pays, here, permits⟩

/-- The second client speaks while the first has no room. The first goes to the courtroom, takes
what waits for it and is then sent what was said in the lobby. -/
theorem exists_late_speech_hearing :
    ∃ f₀ f₁ f f' wire, Reached roomy f₀ ∧ f₀.court.room 0 = .full ∧ f₀.Begins 1 f₁ ∧
      Persists 1 f₁ f ∧ Reached roomy f ∧ f.Next (some 1) f' ∧
      f.court.Appends f'.court 0 wire ∧ Wire.Opens wire "MS" ∧
      f.court.presence.areaOf 0 = some 1 ∧ f.court.presence.areaOf 1 = some 0 := by
  obtain ⟨listener, box, live, here, boxed, listening, capacity, saved⟩ := exists_listener
  obtain ⟨mail, metrics, bucket, box', packed, left, boxed', listening', capacity', full⟩ :=
    reached_hearing.exists_full live rfl boxed listening saved
  let f₀ := Floor.burdened { gateway := hearing } 0 listener mail metrics bucket
  have crowded : f₀.court.room 0 = .full := by
    have found : f₀.court.mail.find? 0 = some box' := boxed'
    rw [Court.room, found]
    exact full
  -- The second client is ready to speak.
  obtain ⟨speaker, found, pays, beside, permits⟩ := exists_speaker
  have ready : f₀.gateway.sessions.find? 1 = some speaker :=
    (Table.find?_insert _ _ _ _).trans ((if_neg (by decide)).trans found)
  have speech : Wire.Packet.parse? "MS#1#-#Miles#smirk#Hello#wit#0#0# +1#0#0#0#0#0#0" =
      some hello := by
    decide
  let v := f₀.gateway.visit speaker
  have paid : v.session.bucket.tokens ≠ 0 := pays
  have heard := (Visit.packet?_of_saved paid _).trans speech
  have speaks : v.scene.SpeaksOut hello 0 greeting :=
    ⟨rfl, Commands.Speaking.judge_spoken_iff.2 ⟨decode_hello, beside, permits⟩⟩
  -- The first client may go to the courtroom.
  have track : Wire.Packet.parse? "MC#Courtroom#-1" = some ⟨"MC", ["Courtroom", "-1"]⟩ := by
    decide
  have moves : (Request.music (.move 1 { name := "Courtroom" })).Decided
      (f₀.gateway.visit { listener with bucket }).scene ⟨"MC", ["Courtroom", "-1"]⟩ := by
    have config : hearing.hall.config = roomy := by decide +kernel
    have known : roomy.areaIndex? "Courtroom" = some 1 := by decide
    refine ⟨rfl, Commands.Music.decide_move_iff.2 ⟨⟨"Courtroom", by decide, ?_⟩, ?_, ?_⟩⟩
    · exact (congrArg (·.areaIndex? "Courtroom") config).trans known
    · exact (congrArg (·.areas[1]?) config).trans rfl
    · exact fun same => absurd (here.symm.trans same) (by decide)
  have sized : 0 < box'.capacity := by
    rw [capacity', capacity]
    decide
  obtain ⟨f₁, f, f', wire, begins, persists, late, step, appended, opens, there, stays⟩ :=
    packed.exists_late_speech (by decide) ready rfl heard speaks
      (live_burdened mail metrics bucket) rfl here left track moves boxed' listening' sized
  exact ⟨f₀, f₁, f, f', wire, packed, crowded, begins, persists, late, step, appended, opens, there,
    stays⟩

end Hearing

end Floor
end CourtroomGateway
