import CourtroomGateway.Proofs.Gateway.Companions
import CourtroomGateway.Proofs.Gateway.Signatures
import CourtroomGateway.Proofs.Wire.Transmission

/-! Speech as it is received. Packets are handed to the handlers as they are, with any command and
any arguments that a wire could carry, and the configuration is free to name characters with the
signs that wires are built from. Such a name could stand on a wire only in the pose of a companion,
and a pose that was taken from the configuration declares nobody, so no other client is ever shown
with it. All else in a speech comes from arguments or is a number. -/

namespace CourtroomGateway

/-- The wire of a speech in broadcast form. -/
def Wire.IsSpeech (wire : String) : Prop :=
  ∃ p : Packet, p.Transmissible ∧ p.command = "MS" ∧ p.args.length = 36 ∧ wire = p.toWire

theorem Wire.IsSpeech.exists_feed {wire : String} (h : IsSpeech wire) (limit : Nat) :
    ∃ message p, (Framer.withLimit limit).feed (Text.Utf8.encode wire) =
        ({ messages := [message] }, Framer.withLimit limit) ∧
      Packet.parse? message = some p ∧ p.command = "MS" ∧ p.args.length = 36 := by
  obtain ⟨p, sound, command, whole, rfl⟩ := h
  exact ⟨p.body, p, sound.feed_toWire limit, sound.parse?_body, command, whole⟩

namespace Scene
variable {s : Scene} {p : Wire.Packet} (carried : ∀ a ∈ p.args, Wire.Carried a)
  (poses : s.hall.court.PosesShow Wire.Carried)
include carried poses

theorem transmissible_speech {area : Nat} {m : Speech.Message}
    (decoded : Speech.decode p.args = .ok m) :
    (m.broadcast (Commands.Speaking.pairing s area m)).Transmissible := by
  have numbers := Wire.carried_decimal
  have command : Wire.Packet.IsCommand "MS" := ⟨by decide, by decide⟩
  have plain : '#' ∉ "MS".toList := by decide
  have zeroless : '\x00' ∉ "MS".toList := by decide
  refine ⟨command, plain, zeroless, ?_⟩
  refine ok_speech numbers (by decide) carried poses decoded fun n order declared => ?_
  have absent {c : Char} (nowhere : ∀ a ∈ p.args, c ∉ a.toList) : c ∉ order.toList :=
    Speech.Message.order_decode decoded nowhere order declared
  have plain := absent fun a mem => (carried a mem).plain
  have zeroless := absent fun a mem => (carried a mem).zeroless
  rw [String.append_assoc]
  exact (numbers n).append (Text.decimal_ne_empty n) (by simp [plain]) (by simp [zeroless])

theorem isSpeech_of_broadcasts {area : Nat} {packet : Wire.Packet}
    (broadcasts : s.Broadcasts p area packet) (opens : Wire.Opens packet.toWire "MS") :
    Wire.IsSpeech packet.toWire := by
  have separated (known : '#' ∉ p.command.toList) : packet.Separated := by
    have poses : s.hall.court.PosesShow fun t => '#' ∉ t.toList :=
      fun id profile found shows t mem => (poses id profile found shows t mem).plain
    exact separated_relay ⟨known, fun a mem => (carried a mem).plain⟩ poses
      (relay?_eq_some_iff.2 broadcasts)
  cases broadcasts with
  | speech command here decoded plays own brief =>
    exact ⟨_, transmissible_speech carried poses decoded, rfl, rfl, rfl⟩
  | chat command here signed named said written =>
    have same : "CT" = "MS" := (separated (command ▸ by decide)).command_of_opens (by decide) opens
    exact absurd same (by decide)
  | track command here asked noArea offered plays =>
    have same : "MC" = "MS" := (separated (command ▸ by decide)).command_of_opens (by decide) opens
    exact absurd same (by decide)

theorem isSpeech_dispatch
    (before : ∀ id, ∀ wire ∈ s.hall.court.waitingFor id, Wire.Opens wire "MS" →
      Wire.IsSpeech wire) (id : Nat) :
    ∀ wire ∈ (Handlers.builtin.dispatch s p).scene.hall.court.waitingFor id,
      Wire.Opens wire "MS" → Wire.IsSpeech wire := by
  intro wire mem opens
  cases relayed : s.relay? p with
  | none =>
    rw [Court.waitingFor_congr (mail_dispatch_of_no_relay relayed)] at mem
    rcases Court.mem_waitingFor_postEach mem with old | sent
    · exact before id wire old opens
    · obtain ⟨packet, listed, rfl⟩ := List.mem_map.1 sent
      obtain ⟨tidy, known⟩ := s.answer_answers p packet listed
      rw [tidy.command_of_opens (by decide) opens] at known
      exact absurd known (by decide)
  | some relay =>
    obtain ⟨area, packet⟩ := relay
    rw [Court.waitingFor_congr (mail_dispatch_of_relay relayed)] at mem
    rcases Court.mem_waitingFor_postAll mem with old | ⟨rfl, -⟩
    · exact before id wire old opens
    · exact isSpeech_of_broadcasts carried poses (relay?_eq_some_iff.1 relayed) opens

end Scene

namespace Gateway

/-- The states of a run in which packets are handed to the handlers as they are, whether or not a
stream could bring them. Between them clients come and go and receivers take their wires. -/
inductive Handed (config : Config) : Gateway → Prop
  | opened {g : Gateway} (accepted : Gateway.ofConfig .builtin config = .ok g) : Handed config g
  | turn {g : Gateway} (before : Handed config g) {id : Nat} {session : Session}
      (live : g.sessions.find? id = some session) (p : Wire.Packet)
      (carried : ∀ a ∈ p.args, Wire.Carried a) : Handed config (g.afterTurn id session p)
  | quiet {g g' : Gateway} (before : Handed config g) (next : Step (fun _ _ => False) g g') :
      Handed config g'
  | received {g : Gateway} (before : Handed config g) (id : Nat)
      (f : Court.Mailbox → Court.Mailbox) (takes : ∀ m : Court.Mailbox, m.Received (f m)) :
      Handed config (g.withMail (g.hall.court.mail.modify id f))

/-- A run hands over the packets that it reads. -/
theorem handed_run {config : Config} {g : Gateway}
    (opened : Gateway.ofConfig .builtin config = .ok g) {events : List Event}
    (carried : ∀ t ∈ g.turns events, ∀ a ∈ t.2.args, Wire.Carried a) :
    Handed config (g.run events) := by
  have through {ts : List Turn} {g' : Gateway} (passes : g.Passes ts g')
      (carried : ∀ t ∈ ts, ∀ a ∈ t.2.args, Wire.Carried a) : Handed config g' := by
    induction passes with
    | start => exact .opened opened
    | quiet _ step ih => exact .quiet (ih carried) step
    | turn _ live parsed ih =>
      have before := ih fun t mem => carried t (List.mem_append_left _ mem)
      exact before.turn live _ (carried _ List.mem_concat_self)
  exact through (g.passes_run events) carried

/-- A gateway where everything that waits as a speech is one, and any pose that others could be
shown can stand on a wire. -/
structure Intact (g : Gateway) : Prop where
  coherent : g.Coherent
  poses : g.hall.court.PosesShow Wire.Carried
  wires : ∀ id, ∀ wire ∈ g.hall.court.waitingFor id, Wire.Opens wire "MS" → Wire.IsSpeech wire

theorem waitingFor_received {g : Gateway} {id i : Nat} {f : Court.Mailbox → Court.Mailbox}
    (takes : ∀ m : Court.Mailbox, m.Received (f m)) {wire : String}
    (mem : wire ∈ (g.withMail (g.hall.court.mail.modify id f)).hall.court.waitingFor i) :
    wire ∈ g.hall.court.waitingFor i := by
  simp only [Gateway.withMail, Court.waitingFor, Table.find?_modify] at mem
  split at mem
  · cases found : g.hall.court.mail.find? i with
    | none => simp [found] at mem
    | some m =>
      simp only [found, Option.map_some, Option.getD_some] at mem
      simpa [Court.waitingFor, found] using (takes m).waiting.subset mem
  · exact mem

theorem Intact.afterTurn {g : Gateway} (h : g.Intact) {id : Nat} {session : Session}
    (live : g.sessions.find? id = some session) {p : Wire.Packet}
    (carried : ∀ a ∈ p.args, Wire.Carried a) : (g.afterTurn id session p).Intact where
  coherent := h.coherent.afterTurn live p
  poses := by
    rw [Gateway.afterTurn, h.coherent.builtin]
    exact ((g.visit session).scene.turned_dispatch p).posesShow Wire.carried_decimal (by decide)
      carried h.poses
  wires := by
    rw [Gateway.afterTurn, h.coherent.builtin]
    exact Scene.isSpeech_dispatch carried h.poses h.wires

theorem Intact.quiet {g g' : Gateway} (h : g.Intact) (step : Step (fun _ _ => False) g g') :
    g'.Intact where
  coherent := h.coherent.step step
  poses := posesShow_step h.coherent Wire.carried_decimal (by decide) (fun _ => False.elim) h.poses
    step
  wires i wire mem opens := by
    obtain before | rfl | ⟨-, -, -, -, none, -⟩ := waitingFor_step step mem
    · exact h.wires i wire before opens
    · have greeting : ((Wire.Packet.named "decryptor").nat 34).Tidy :=
        (Wire.Packet.tidy_named (by decide)).nat 34
      exact absurd (greeting.command_of_opens (by decide) opens) (by decide)
    · exact none.elim

theorem Handed.intact {config : Config} {g : Gateway} (h : Handed config g) : g.Intact := by
  induction h with
  | opened accepted =>
    have coherent := coherent_ofConfig accepted
    obtain ⟨-, rfl⟩ := ofConfig_ok accepted
    exact ⟨coherent, nofun, nofun⟩
  | turn _ live p carried ih => exact ih.afterTurn live carried
  | quiet _ next ih => exact ih.quiet next
  | received _ id f takes ih =>
    refine ⟨ih.coherent.inHall _ rfl rfl rfl, ih.poses, fun i wire mem => ?_⟩
    exact ih.wires i wire (waitingFor_received takes mem)

/-- Whatever names the configuration gives its characters, and whatever packets are handed over
whose arguments a wire could carry: a wire that is queued as a speech is, to a fresh framer that is
fed it at once, one message and nothing else, which reads as a speech with all its arguments. -/
theorem speech_received {config : Config} {g : Gateway} (handed : Handed config g) {id : Nat}
    {wire : String} (waits : wire ∈ g.hall.court.waitingFor id) (opens : Wire.Opens wire "MS")
    (limit : Nat) :
    ∃ message p, (Wire.Framer.withLimit limit).feed (Text.Utf8.encode wire) =
        ({ messages := [message] }, Wire.Framer.withLimit limit) ∧
      Wire.Packet.parse? message = some p ∧ p.command = "MS" ∧ p.args.length = 36 :=
  (handed.intact.wires id wire waits opens).exists_feed limit

/-- The names of the characters are made of the signs that wires are built from. -/
def marked : Config := { courthouse with characters := ["Nick#%", "50%&Miles"] }

/-- The first client addresses one who has not spoken, and is then answered by it. -/
def overture : List Event :=
  [.arrive .tcp 0, .arrive .ws 0, feeds 0 "CC#0#0#%RD#%", feeds 1 "CC#1#1#%RD#%", .collect 0,
    .collect 1, utters 0 plea, utters 1 rejoinder]

/-- What waits for the second client after these events. -/
def rebuttals : List String :=
  ["MS#1##Nick#point##wit#0#0#0#0#0#0#0#0#0##-1###0#0#0#0#0#0####0##-1###0#0##%",
    "MS#1##Miles#smirk##wit#0#0#1#0#0#0#1#0#0##0#Nick#point#-30#0#0#0#0#0####0##-1###0#0##%"]

theorem speech_received_marked :
    Handed marked ((unvisited marked).run overture) ∧
      ((unvisited marked).run overture).hall.court.waitingFor 1 = rebuttals ∧
      ∀ wire ∈ rebuttals, ∃ message p,
        Wire.Framer.new.feed (Text.Utf8.encode wire) =
            ({ messages := [message] }, Wire.Framer.new) ∧
          Wire.Packet.parse? message = some p ∧ p.command = "MS" ∧ p.args.length = 36 := by
  obtain ⟨carried, queued⟩ :
      (∀ t ∈ (unvisited marked).turns overture, ∀ a ∈ t.2.args, Wire.Carried a) ∧
        ((unvisited marked).run overture).hall.court.waitingFor 1 = rebuttals := by
    decide +kernel
  have opening : ∀ wire ∈ rebuttals, "MS#".toList <+: wire.toList := by decide
  have handed := handed_run (ofConfig_of_clean (by decide)) carried
  refine ⟨handed, queued, fun wire listed => ?_⟩
  have waits := queued.symm ▸ listed
  exact speech_received handed waits (opening wire listed) Wire.Framer.defaultLimit

end Gateway
end CourtroomGateway
