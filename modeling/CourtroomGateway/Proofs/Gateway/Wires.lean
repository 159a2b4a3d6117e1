import CourtroomGateway.Proofs.Commands.Mail
import CourtroomGateway.Proofs.Gateway.Coherence
import CourtroomGateway.Proofs.Speech.Texts

/-! The wires that ever wait for a client. Whatever the clients send and whatever the
configuration holds, a wire has one terminator at its end, unless it passes on an argument that
begins with a percent sign. Such an argument is not stopped: trimming or dropping bytes that are
not text can bring the percent sign to the front after the message was cut. -/

namespace CourtroomGateway

namespace Court

/-- The property is one of every text that others can be shown of a pose. -/
def PosesShow (ok : String → Prop) (c : Court) : Prop :=
  ∀ id profile, c.roster.find? id = some profile → profile.pose.Shows ok

/-- Someone who is in the area has room for a wire. -/
def Reaches (c : Court) (area : Nat) : Prop := ∃ id ∈ c.recipients area, c.room id = .free

theorem posesShow_setCharacter {ok : String → Prop} {c : Court} (h : c.PosesShow ok) (id : Nat)
    (charId : Int64) (folder : String) :
    PosesShow ok { c with roster := c.roster.setCharacter id charId (.idle folder) } := by
  intro i profile found
  simp only [Roster.find?_setCharacter] at found
  split at found
  · obtain ⟨-, -, rfl⟩ := Option.map_eq_some_iff.1 found
    exact Speech.Pose.shows_idle ok folder
  · exact h i profile found

theorem posesShow_setPose {ok : String → Prop} {c : Court} (h : c.PosesShow ok) (id : Nat)
    {pose : Speech.Pose} (shows : pose.Shows ok) :
    PosesShow ok { c with roster := c.roster.setPose id pose } := by
  intro i profile found
  simp only [Roster.find?_setPose] at found
  split at found
  · obtain ⟨-, -, rfl⟩ := Option.map_eq_some_iff.1 found
    exact shows
  · exact h i profile found

end Court

namespace Scene

theorem Alike.posesShow {ok : String → Prop} {s t : Scene} (h : s.Alike t)
    (poses : s.hall.court.PosesShow ok) : t.hall.court.PosesShow ok := by
  rw [Court.PosesShow, h.roster]
  exact poses

theorem Turned.posesShow {ok : String → Prop} {s t : Scene} {p : Wire.Packet} (h : s.Turned p t)
    (numbers : ∀ n, ok (Text.decimal n)) (empty : ok "") (sent : ∀ a ∈ p.args, ok a)
    (poses : s.hall.court.PosesShow ok) : t.hall.court.PosesShow ok := by
  cases h with
  | kept same => exact same.posesShow poses
  | posed m decoded same =>
    have texts := Speech.Message.texts_decode decoded numbers empty sent
    exact same.posesShow (Court.posesShow_setPose poses _ (Speech.Pose.shows_ofMessage texts))
  | picked act decided same =>
    exact same.posesShow (Court.posesShow_setCharacter poses _ _ _)
  | entered index area known same =>
    refine same.posesShow ?_
    rcases s.releaseIfTaken_cases index with ⟨kept, -⟩ | released
    · rw [kept]
      exact poses
    · exact released.posesShow (Court.posesShow_setCharacter poses s.client.id (-1) "")

/-- The packet that a turn passes on, and to which area. -/
def relay? (s : Scene) (p : Wire.Packet) : Option (Nat × Wire.Packet) :=
  match s.request p with
  | .ok request => request.relay? s
  | .error _ => none

/-- The turn passes an argument that begins with a percent sign on to someone. -/
def Injects (s : Scene) (p : Wire.Packet) : Prop :=
  ∃ area packet, s.relay? p = some (area, packet) ∧ s.hall.court.Reaches area ∧
    ∃ a ∈ packet.args, Wire.Completes a

theorem separated_chatting {s : Scene} {p : Wire.Packet} {act : Commands.ChattingAct}
    (plain : p.Separated) (decided : Commands.Chatting.decide s p = .ok act) :
    Wire.Packet.Separated { command := "CT", args := [act.name, act.text, "0"] } := by
  have trimmed (i : Nat) : '#' ∉ (Text.trim (p.args[i]?.getD "")).toList := by
    rw [Text.toList_trim]
    exact fun inside => plain.getD i (Text.mem_of_mem_trimChars inside)
  obtain ⟨-, name, text, -, -⟩ := Commands.Chatting.decide_eq_ok_iff.1 decided
  have command : '#' ∉ "CT".toList := by decide
  refine ⟨command, ?_⟩
  simp only [List.forall_mem_cons, name, text]
  exact ⟨trimmed 0, trimmed 1, by decide, List.forall_mem_nil _⟩

theorem separated_music {s : Scene} {p : Wire.Packet} {area : Nat} {track showname : String}
    (plain : p.Separated)
    (decided : Commands.Music.decide s p = .ok (.play area track showname)) :
    ((((Wire.Packet.named "MC").text track).int s.client.charId).arg showname).Separated := by
  obtain ⟨-, -, -, -, -, shown⟩ := Commands.Music.decide_play_iff.1 decided
  have command : '#' ∉ "MC".toList := by decide
  refine ⟨command, ?_⟩
  simp only [Wire.Packet.named, Wire.Packet.text, Wire.Packet.int, Wire.Packet.arg,
    List.nil_append, List.cons_append, List.forall_mem_cons, shown]
  exact ⟨(Wire.safe_escape track).plain, (Wire.safe_decimal _).plain, plain.getD 2,
    List.forall_mem_nil _⟩

/-- What sent arguments and numbers have, and a number with an order, every argument of a speech has
that is passed on. -/
theorem ok_speech {ok : String → Prop} (numbers : ∀ n, ok (Text.decimal n)) (empty : ok "")
    {s : Scene} {p : Wire.Packet} {area : Nat} {m : Speech.Message} (sent : ∀ a ∈ p.args, ok a)
    (poses : s.hall.court.PosesShow ok) (decoded : Speech.decode p.args = .ok m)
    (ordered : ∀ n order, m.pairOrder = some order → ok (Text.decimal n ++ "^" ++ order)) :
    ∀ a ∈ m.broadcastArgs (Commands.Speaking.pairing s area m), ok a := by
  have texts := Speech.Message.texts_decode decoded numbers empty sent
  refine Speech.ok_broadcastArgs numbers empty texts ?_ fun c found => ?_
  · obtain ⟨id, same | ⟨order, declared, same⟩⟩ := Speech.charidPair_pair m
      ⟨s.client.id, s.client.charId⟩ (s.hall.court.candidates area s.client.id)
    · rw [Commands.Speaking.pairing, same]
      exact numbers id
    · rw [Commands.Speaking.pairing, same]
      exact ordered id order declared
  · refine Speech.texts_pair (fun d mem => ?_) found
    obtain ⟨-, -, known⟩ := Court.mem_candidates_iff.1 mem
    exact poses _ _ known

theorem separated_speech {s : Scene} {p : Wire.Packet} {area : Nat} {m : Speech.Message}
    (plain : p.Separated) (poses : s.hall.court.PosesShow fun t => '#' ∉ t.toList)
    (judged : Commands.Speaking.judge s p = .spoken area m) :
    (m.broadcast (Commands.Speaking.pairing s area m)).Separated := by
  have numbers (n : Int64) : '#' ∉ (Text.decimal n).toList := (Wire.safe_decimal n).plain
  obtain ⟨decoded, -, -⟩ := Commands.Speaking.judge_spoken_iff.1 judged
  have command : '#' ∉ "MS".toList := by decide
  refine ⟨command, ok_speech numbers (by simp) plain.args poses decoded fun n order declared => ?_⟩
  have ordered := Speech.Message.order_decode decoded plain.args order declared
  simp [numbers n, ordered]

/-- In what is passed on the number sign only separates. -/
theorem separated_relay {s : Scene} {p packet : Wire.Packet} {area : Nat} (plain : p.Separated)
    (poses : s.hall.court.PosesShow fun t => '#' ∉ t.toList)
    (relayed : s.relay? p = some (area, packet)) : packet.Separated := by
  unfold relay? at relayed
  cases asked : s.request p with
  | error refusal => simp [asked] at relayed
  | ok request =>
    simp only [asked] at relayed
    have decided := decided_of_request asked
    cases request with
    | joining act => cases act <;> cases relayed
    | character act => cases relayed
    | chatting act =>
      cases relayed
      exact separated_chatting plain decided.2
    | music act =>
      cases act with
      | stay => cases relayed
      | move index place => cases relayed
      | play place track showname =>
        cases relayed
        exact separated_music plain decided.2
    | speaking act =>
      cases act with
      | unread error => cases relayed
      | silent m => cases relayed
      | spoken place m =>
        cases relayed
        exact separated_speech plain poses decided.2

theorem mail_dispatch_of_relay {s : Scene} {p packet : Wire.Packet} {area : Nat}
    (relayed : s.relay? p = some (area, packet)) :
    (Handlers.builtin.dispatch s p).scene.hall.court.mail =
      (s.hall.court.publishLossy area packet.toWire).mail := by
  unfold relay? at relayed
  rw [Handlers.dispatch_builtin]
  cases asked : s.request p with
  | error refusal => simp [asked] at relayed
  | ok request => exact Request.mail_of_relay (by simpa only [asked] using relayed)

/-- What a turn answers its client. -/
def answers (s : Scene) (p : Wire.Packet) : List Wire.Packet :=
  match s.request p with
  | .ok request => request.replies s
  | .error _ => []

theorem mail_dispatch_of_no_relay {s : Scene} {p : Wire.Packet} (kept : s.relay? p = none) :
    (Handlers.builtin.dispatch s p).scene.hall.court.mail =
      (s.hall.court.postEach s.client.id ((s.answers p).map (·.toWire))).mail := by
  unfold relay? at kept
  rw [Handlers.dispatch_builtin, answers]
  cases asked : s.request p with
  | error refusal =>
    simp only [Handlers.answer, Handlers.refuse]
    split <;> rfl
  | ok request => exact Request.mail_of_no_relay (by simpa only [asked] using kept)

theorem answer_answers (s : Scene) (p : Wire.Packet) :
    ∀ packet ∈ s.answers p, Request.Answer packet := by
  unfold answers
  split
  · exact Request.answer_replies _ s
  · exact List.forall_mem_nil _

theorem grows_dispatch (s : Scene) (p : Wire.Packet) :
    s.hall.court.Grows (Handlers.builtin.dispatch s p).scene.hall.court := by
  intro id
  cases relayed : s.relay? p with
  | none =>
    rw [Court.waitingFor_congr (mail_dispatch_of_no_relay relayed)]
    exact s.hall.court.grows_postEach _ _ id
  | some relay =>
    rw [Court.waitingFor_congr (mail_dispatch_of_relay relayed)]
    exact s.hall.court.grows_postAll _ _ id

/-- A turn that injects nothing leaves only wires of one message. -/
theorem closedOnce_dispatch {s : Scene} {p : Wire.Packet} (plain : p.Separated)
    (poses : s.hall.court.PosesShow fun t => '#' ∉ t.toList) (clean : ¬ s.Injects p)
    (before : ∀ id, ∀ wire ∈ s.hall.court.waitingFor id, Wire.ClosedOnce wire) (id : Nat) :
    ∀ wire ∈ (Handlers.builtin.dispatch s p).scene.hall.court.waitingFor id,
      Wire.ClosedOnce wire := by
  intro wire mem
  cases relayed : s.relay? p with
  | none =>
    rw [Court.waitingFor_congr (mail_dispatch_of_no_relay relayed)] at mem
    rcases Court.mem_waitingFor_postEach mem with old | sent
    · exact before id wire old
    · obtain ⟨packet, listed, rfl⟩ := List.mem_map.1 sent
      exact (s.answer_answers p packet listed).closedOnce
  | some relay =>
    obtain ⟨area, packet⟩ := relay
    rw [Court.waitingFor_congr (mail_dispatch_of_relay relayed)] at mem
    rcases Court.mem_waitingFor_postAll mem with old | ⟨rfl, reached⟩
    · exact before id wire old
    · refine (separated_relay plain poses relayed).closedOnce_iff.2 fun a listed completes => ?_
      exact clean ⟨area, packet, relayed, reached, a, listed, completes⟩

/-- A turn that injects leaves a wire of more than one message with someone. -/
theorem injected_waits {s : Scene} {p : Wire.Packet} (plain : p.Separated)
    (poses : s.hall.court.PosesShow fun t => '#' ∉ t.toList) (injects : s.Injects p) :
    ∃ id, ∃ wire ∈ (Handlers.builtin.dispatch s p).scene.hall.court.waitingFor id,
      ¬ Wire.ClosedOnce wire := by
  obtain ⟨area, packet, relayed, ⟨id, listed, free⟩, a, mem, completes⟩ := injects
  refine ⟨id, packet.toWire, ?_, ?_⟩
  · rw [Court.waitingFor_congr (mail_dispatch_of_relay relayed)]
    exact Court.waits_postAll listed free packet.toWire
  · rw [(separated_relay plain poses relayed).closedOnce_iff]
    exact fun begins => begins a mem completes

end Scene

namespace Visit

theorem grows_handle (v : Visit) (now : Nat) (message : String) :
    v.hall.court.Grows (v.handle .builtin now message).2.hall.court := by
  unfold handle
  split
  · exact .refl _
  next p _ =>
    dsimp only
    split
    · exact .refl _
    · exact .refl _
    · exact v.scene.grows_dispatch p

theorem grows_handleAll (v : Visit) (messages : List (Nat × String)) :
    v.hall.court.Grows (v.handleAll .builtin messages).2.hall.court := by
  induction messages generalizing v with
  | nil => exact .refl _
  | cons timed messages ih =>
    obtain ⟨now, message⟩ := timed
    have first := v.grows_handle now message
    rw [handleAll]
    cases handled : v.handle .builtin now message with
    | mk flow v' =>
      rw [handled] at first
      cases flow with
      | goOn => exact first.trans (ih v')
      | _ => exact first

/-- What a packet leaves in the mail stays there until the chunk is done. -/
theorem grows_from_dispatch {now : Nat} {v : Visit} {message : String} {p : Wire.Packet}
    (found : v.packet? now message = some p) (rest : List (Nat × String)) :
    (Handlers.builtin.dispatch v.scene p).scene.hall.court.Grows
      (v.handleAll .builtin ((now, message) :: rest)).2.hall.court := by
  unfold packet? at found
  split at found
  next pass =>
    let paid := { v.session with bucket := (v.session.bucket.check now).2 }
    let after : Visit :=
      (Visit.mk v.hall paid).withScene (Handlers.builtin.dispatch v.scene p).scene
    have handled : v.handle .builtin now message =
        ((Handlers.builtin.dispatch v.scene p).outcome.flow, after) := by
      simp only [handle, found, pass]
      rfl
    rw [handleAll, handled]
    cases (Handlers.builtin.dispatch v.scene p).outcome.flow with
    | goOn => exact after.grows_handleAll rest
    | _ => exact .refl _
  · cases found

end Visit

namespace Gateway

/-- What all arguments have that are sent, every pose that is shown keeps. -/
theorem posesShow_step {admits : Scene → Wire.Packet → Prop} {ok : String → Prop}
    {g g' : Gateway} (coherent : g.Coherent) (numbers : ∀ n, ok (Text.decimal n)) (empty : ok "")
    (sent : ∀ {s message p}, Wire.Packet.parse? message = some p → admits s p →
      ∀ a ∈ p.args, ok a)
    (poses : g.hall.court.PosesShow ok) (step : Step admits g g') :
    g'.hall.court.PosesShow ok := by
  cases step with
  | tend live framer bucket => exact poses
  | overflow live => exact poses
  | drop live => exact poses
  | collect id => exact poses
  | wait milliseconds => exact poses
  | @turn id session live message p parsed admitted =>
    rw [coherent.builtin]
    have turned := (g.visit session).scene.turned_dispatch p
    exact turned.posesShow numbers empty (sent parsed admitted) poses
  | arrive transport now =>
    intro i profile found
    rcases find?_roster_arrive found with rfl | before
    · exact Speech.Pose.shows_idle ok ""
    · exact poses i profile before
  | depart id => exact fun i profile found => poses i profile (find?_roster_depart found)

/-- A gateway in which nothing that waits or is yet to be shown breaks a wire. -/
structure Whole (g : Gateway) : Prop where
  coherent : g.Coherent
  poses : g.hall.court.PosesShow fun t => '#' ∉ t.toList
  wires : ∀ id, ∀ wire ∈ g.hall.court.waitingFor id, Wire.ClosedOnce wire

theorem plain_step {admits : Scene → Wire.Packet → Prop} {g g' : Gateway} (coherent : g.Coherent)
    (poses : g.hall.court.PosesShow fun t => '#' ∉ t.toList) (step : Step admits g g') :
    g'.hall.court.PosesShow fun t => '#' ∉ t.toList :=
  posesShow_step coherent (fun n => (Wire.safe_decimal n).plain) (by simp)
    (fun parsed _ => (Wire.Packet.separated_of_parse parsed).args) poses step

theorem waitingFor_arrive {g : Gateway} {transport : Transport} {now : Nat} {id : Nat}
    {wire : String} (mem : wire ∈ (g.arrive transport now).2.hall.court.waitingFor id) :
    wire ∈ g.hall.court.waitingFor id ∨
      wire = ((Wire.Packet.named "decryptor").nat 34).toWire := by
  unfold arrive at mem
  cases opened : g.hall.openSession transport now with
  | error refusal =>
    rw [opened] at mem
    exact .inl mem
  | ok v =>
    rw [opened] at mem
    obtain ⟨-, -, -, -, mail, -⟩ := Hall.openSession_ok opened
    rw [Court.waitingFor_congr mail, Court.waitingFor_post] at mem
    have connected : ∀ w ∈ (g.hall.court.connect Hall.mailboxCapacity).waitingFor id,
        w ∈ g.hall.court.waitingFor id := by
      intro w there
      simp only [Court.waitingFor, Court.connect, Table.find?_insert] at there
      split at there
      · cases there
      · exact there
    split at mem
    · rcases List.mem_append.1 mem with before | greeted
      · exact .inl (connected wire before)
      · exact .inr (List.mem_singleton.1 greeted)
    · exact .inl (connected wire mem)

theorem waitingFor_collect {g : Gateway} {id i : Nat} {wire : String}
    (mem : wire ∈ (g.collect id).2.hall.court.waitingFor i) :
    wire ∈ g.hall.court.waitingFor i := by
  simp only [collect, Court.waitingFor, Table.find?_modify] at mem
  split at mem
  · cases found : g.hall.court.mail.find? i <;> simp [found, Court.Mailbox.drain] at mem
  · exact mem

theorem waitingFor_depart {g : Gateway} {id i : Nat} {wire : String}
    (mem : wire ∈ (g.depart id).hall.court.waitingFor i) : wire ∈ g.hall.court.waitingFor i := by
  unfold depart at mem
  split at mem
  · exact mem
  · simp only [Court.waitingFor, Hall.mail_endSession, Table.find?_erase] at mem
    split at mem
    · cases mem
    · exact mem

/-- A wire that waits after a step waited before, greets a new client or was put there in a turn. -/
theorem waitingFor_step {admits : Scene → Wire.Packet → Prop} {g g' : Gateway}
    (step : Step admits g g') {i : Nat} {wire : String}
    (mem : wire ∈ g'.hall.court.waitingFor i) :
    wire ∈ g.hall.court.waitingFor i ∨ wire = ((Wire.Packet.named "decryptor").nat 34).toWire ∨
      ∃ session message p, Wire.Packet.parse? message = some p ∧
        admits (g.visit session).scene p ∧
        wire ∈ (g.handlers.dispatch (g.visit session).scene p).scene.hall.court.waitingFor i := by
  cases step with
  | tend live framer bucket => exact .inl mem
  | overflow live => exact .inl mem
  | drop live => exact .inl mem
  | wait milliseconds => exact .inl mem
  | collect id => exact .inl (waitingFor_collect mem)
  | depart id => exact .inl (waitingFor_depart mem)
  | arrive transport now => exact (waitingFor_arrive mem).imp_right .inl
  | @turn id session live message p parsed admitted =>
    exact .inr (.inr ⟨session, message, p, parsed, admitted, mem⟩)

theorem Whole.step {g g' : Gateway} (h : g.Whole)
    (step : Step (fun s p => ¬ s.Injects p) g g') : g'.Whole where
  coherent := h.coherent.step step
  poses := plain_step h.coherent h.poses step
  wires := by
    intro i wire mem
    obtain before | rfl | ⟨session, message, p, parsed, clean, mem⟩ := waitingFor_step step mem
    · exact h.wires i wire before
    · exact ((Wire.Packet.tidy_named (by decide)).nat 34).closedOnce
    · rw [h.coherent.builtin] at mem
      exact Scene.closedOnce_dispatch (Wire.Packet.separated_of_parse parsed) h.poses clean h.wires
        i wire mem

/-- The wire waits for someone at some time of the run. -/
def Queued (g : Gateway) (events : List Event) (wire : String) : Prop :=
  ∃ before, before <+: events ∧ ∃ id, wire ∈ (g.run before).hall.court.waitingFor id

theorem whole_ofConfig {config : Config} {g : Gateway}
    (opened : Gateway.ofConfig .builtin config = .ok g) : g.Whole := by
  have coherent := coherent_ofConfig opened
  obtain ⟨-, rfl⟩ := ofConfig_ok opened
  exact ⟨coherent, nofun, nofun⟩

theorem closedOnce_of_queued {config : Config} {g : Gateway}
    (opened : Gateway.ofConfig .builtin config = .ok g) {events : List Event}
    (clean : ∀ t ∈ g.turns events, ¬ t.1.Injects t.2) {wire : String}
    (queued : g.Queued events wire) : Wire.ClosedOnce wire := by
  obtain ⟨before, ⟨later, rfl⟩, id, mem⟩ := queued
  rw [turns_append] at clean
  have leads : Leads (fun s p => ¬ s.Injects p) g (g.run before) :=
    g.leads_run before fun t mem => clean t (List.mem_append_left _ mem)
  exact (leads.keeps Whole (fun _ _ => Whole.step) (whole_ofConfig opened)).wires id wire mem

theorem exists_queued_of_injects {config : Config} {g : Gateway}
    (opened : Gateway.ofConfig .builtin config = .ok g) {events : List Event} {t : Turn}
    (mem : t ∈ g.turns events) (injects : t.1.Injects t.2) :
    ∃ wire, g.Queued events wire ∧ ¬ Wire.ClosedOnce wire := by
  obtain ⟨before, event, later, id, now, v, message, rest, rfl, leads, found, scene, same⟩ :=
    g.turn_of_mem (fun _ _ => True) events (fun _ _ => trivial) mem
  have start := whole_ofConfig opened
  obtain ⟨coherent, poses⟩ := leads.keeps_of_coherent
    (fun g => g.hall.court.PosesShow fun t => '#' ∉ t.toList)
    (fun _ _ coherent poses step => plain_step coherent poses step) start.coherent start.poses
  have plain := Wire.Packet.separated_of_parse (Visit.parse_of_packet? found)
  have poses : t.1.hall.court.PosesShow fun t => '#' ∉ t.toList := scene ▸ poses
  obtain ⟨other, wire, waits, broken⟩ := Scene.injected_waits plain poses injects
  have builtin : (g.run before).handlers = .builtin := coherent.builtin
  have grows := Visit.grows_from_dispatch found rest
  rw [scene] at grows
  have stays := (grows other).subset waits
  refine ⟨wire, ⟨before ++ [event], ⟨later, by simp⟩, other, ?_⟩, broken⟩
  rw [run_append]
  change wire ∈ ((g.run before).step event).hall.court.waitingFor other
  rw [same, builtin]
  exact stays

/-- In a run every wire that is ever queued is one message, with the terminator at its end alone,
just as long as no turn passes on an argument that begins with a percent sign. Nothing else that
a client sends, and nothing in the configuration, can break a wire. -/
theorem queued_closedOnce_iff {config : Config} {g : Gateway}
    (opened : Gateway.ofConfig .builtin config = .ok g) (events : List Event) :
    (∀ wire, g.Queued events wire → Wire.ClosedOnce wire) ↔
      ∀ t ∈ g.turns events, ¬ t.1.Injects t.2 := by
  constructor
  · intro closed t mem injects
    obtain ⟨wire, queued, broken⟩ := exists_queued_of_injects opened mem injects
    exact broken (closed wire queued)
  · intro clean wire queued
    exact closedOnce_of_queued opened clean queued

/-- A client puts a blank before the percent sign of its name, and trimming takes it away. -/
def intruder : List Event := [.arrive .tcp 0, feeds 0 "RD#%", feeds 0 "CT# %x#y#%"]

theorem queued_intruder : opening.Queued intruder "CT#%x#y#0#%" :=
  ⟨intruder, List.prefix_rfl, 0, by decide +kernel⟩

theorem queued_closedOnce_iff_intruder :
    Gateway.ofConfig .builtin lobby = .ok opening ∧
      ∃ t ∈ opening.turns intruder, t.1.Injects t.2 := by
  refine ⟨ofConfig_lobby, ?_⟩
  by_contra clean
  have closed := (queued_closedOnce_iff ofConfig_lobby intruder).2 fun t mem injects =>
    clean ⟨t, mem, injects⟩
  exact absurd (closed _ queued_intruder) (by decide)

/-- Not every wire that is queued is one message. -/
theorem exists_queued_not_closedOnce :
    ¬ ∀ (config : Config) (g : Gateway), Gateway.ofConfig .builtin config = .ok g →
      ∀ (events : List Event) (wire : String), g.Queued events wire → Wire.ClosedOnce wire :=
  fun closed => absurd (closed lobby opening ofConfig_lobby intruder _ queued_intruder) (by decide)

end Gateway
end CourtroomGateway
