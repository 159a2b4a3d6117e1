import CourtroomGateway.Proofs.Floor.Order
import CourtroomGateway.Proofs.Gateway.Survival

/-! Every run of the gateway is a run of the floor: the one in which nothing else happens while
speech is being delivered. A packet of speech, taken as a whole, is then its beginning, the sends
that find room, the wait for those that do not, and its end. -/

namespace CourtroomGateway

/-- Speech as a whole leaves what its beginning leaves, with all that was delivered and the time
that it took, and this time is recorded. -/
theorem Scene.dispatch_of_speaksOut {s : Scene} {p : Wire.Packet} {area : Nat}
    {m : Speech.Message} (speaks : s.SpeaksOut p area m) {t : Court.Sending}
    (court : t.court = (s.delivery area m).court)
    (elapsed : t.elapsed = (s.delivery area m).waited) :
    (Handlers.builtin.dispatch s p).scene =
      Handlers.recordDuration "MS" s.hall.clock
        { s.speakUp area m with
          hall :=
            { (s.speakUp area m).hall with
              court := t.court, clock := s.hall.clock + t.elapsed } } := by
  have decided : (Request.speaking (.spoken area m)).Decided s p := speaks
  rw [Handlers.dispatch_builtin, request_eq_ok_iff.2 decided, Handlers.answer, speaks.1, court,
    elapsed, ← s.clock_shown m]
  rfl

namespace Floor

/-- The floor when the sends of a client have come so far, and time with them. -/
def amid (f : Floor) (id : Nat) (u : Outgoing) (s : Court.Sending) : Floor where
  gateway :=
    { f.gateway with
      hall := { f.gateway.hall with court := s.court, clock := u.since + s.elapsed } }
  speaking := f.speaking.insert id { u with pending := s.pending }

section Sends
variable {config : Config} {f : Floor} {id : Nat} {u : Outgoing} {s t : Court.Sending}

theorem Reached.amid_next (reached : Reached config (f.amid id u s))
    (next : s.Next u.wire Commands.speechTimeout t) : Reached config (f.amid id u t) := by
  have said : (f.amid id u s).speaking.find? id = some { u with pending := s.pending } :=
    (Table.find?_insert _ _ _ _).trans (if_pos rfl)
  have far : (f.amid id u s).sending { u with pending := s.pending } = s := by
    have elapsed : u.since + s.elapsed - u.since = s.elapsed := Nat.add_sub_cancel_left _ _
    unfold sending amid
    rw [elapsed]
    rfl
  have sent (still : t.elapsed = s.elapsed) : Reached config (f.amid id u t) := by
    have goes : ((f.amid id u s).sending { u with pending := s.pending }).Next u.wire
        Commands.speechTimeout t := by
      rw [far]
      exact next
    have step := reached.next (.sends said goes)
    have same : (f.amid id u s).sent id { u with pending := s.pending } t = f.amid id u t := by
      simp only [Floor.sent, amid, inCourt, Table.insert_insert, still]
    rwa [same] at step
  cases next with
  | waited milliseconds =>
    have later := reached.next (.waits milliseconds)
    have clock : u.since + s.elapsed + milliseconds = u.since + (s.elapsed + milliseconds) :=
      Nat.add_assoc _ _ _
    simp only [Gateway.wait, amid, clock] at later
    exact later
  | _ => exact sent rfl

theorem Reached.amid_leads (reached : Reached config (f.amid id u s))
    (leads : Court.Sending.Leads u.wire Commands.speechTimeout s t) :
    Reached config (f.amid id u t) := by
  induction leads with
  | refl => exact reached
  | tail _ next ih => exact ih.amid_next next

end Sends

section Whole
variable {config : Config} {g : Gateway} {id : Nat} {v : Visit}

/-- Speech that passes flood control, taken as a whole. -/
theorem Reached.whole_speech (reached : Reached config { gateway := g.after id v }) {now : Nat}
    {message : String} {p : Wire.Packet} (heard : v.packet? now message = some p) {area : Nat}
    {m : Speech.Message} (speaks : v.scene.SpeaksOut p area m) :
    Reached config { gateway := g.after id (v.handle g.handlers now message).2 } := by
  let f : Floor := { gateway := g.after id v }
  let paid := v.charged now
  let w := paid.withScene (v.scene.speakUp area m)
  let u : Outgoing :=
    { wire := (m.broadcast (Commands.Speaking.pairing v.scene area m)).toWire
      pending := (v.scene.sending area m).pending
      since := v.hall.clock }
  have begun := reached.next (.begins (g.live_after id v) rfl heard speaks)
  have start : f.begun id paid area m =
      (f.begun id paid area m).amid id u (v.scene.sending area m) := by
    have clock : w.hall.clock = v.hall.clock := v.scene.clock_shown m
    have hall : w.hall = { w.hall with clock := v.hall.clock } := by rw [← clock]
    simp only [Floor.begun, amid, Table.insert_insert]
    exact congrArg
      (fun hall => Floor.mk { f.gateway.after id w with hall } (f.speaking.insert id u)) hall
  obtain ⟨t, leads, done, court, elapsed⟩ :=
    Court.exists_delivered (show 0 < Commands.speechTimeout by decide)
      (v.scene.shown m).hall.court area u.wire
      (some v.scene.client.id)
  have sent := (start ▸ begun).amid_leads leads
  have said : ((f.begun id paid area m).amid id u t).speaking.find? id =
      some { u with pending := t.pending } := (Table.find?_insert _ _ _ _).trans (if_pos rfl)
  have live : ((f.begun id paid area m).amid id u t).gateway.sessions.find? id = some w.session :=
    (g.after id v).live_after id w
  have ended := sent.next (.ends live said done)
  have builtin : g.handlers = .builtin := reached.sound.orderly.coherent.builtin
  have origin : (v.scene.shown m).client.id = v.scene.client.id :=
    congrArg (·.id) (v.scene.client_shown m)
  rw [← origin] at court elapsed
  have whole := Scene.dispatch_of_speaksOut speaks court elapsed
  have same : ((f.begun id paid area m).amid id u t).ended id w.session
      { u with pending := t.pending } =
        { gateway := g.after id (v.handle g.handlers now message).2 } := by
    rw [Visit.handle_of_packet heard, builtin, whole]
    simp only [f, Floor.ended, amid, Floor.begun, Gateway.after, Table.insert_insert,
      Table.erase_insert]
    rfl
  rwa [same] at ended

theorem Reached.whole_handle (reached : Reached config { gateway := g.after id v }) (now : Nat)
    (message : String) :
    Reached config { gateway := g.after id (v.handle g.handlers now message).2 } := by
  by_cases speech : ∃ p area m, v.packet? now message = some p ∧ v.scene.SpeaksOut p area m
  · obtain ⟨p, area, m, heard, speaks⟩ := speech
    exact reached.whole_speech heard speaks
  · have unspoken (p : Wire.Packet) (area : Nat) (m : Speech.Message)
        (heard : v.packet? now message = some p) : ¬ v.scene.SpeaksOut p area m :=
      fun speaks => speech ⟨p, area, m, heard, speaks⟩
    have handled := reached.next (.handles (g.live_after id v) rfl unspoken)
    rw [Gateway.after_after] at handled
    exact handled

theorem Reached.whole_handleAll (reached : Reached config { gateway := g.after id v })
    (messages : List (Nat × String)) :
    Reached config { gateway := g.after id (v.handleAll g.handlers messages).2 } := by
  induction messages generalizing v with
  | nil => exact reached
  | cons timed messages ih =>
    obtain ⟨now, message⟩ := timed
    have first := reached.whole_handle now message
    rw [Visit.handleAll]
    cases handled : v.handle g.handlers now message with
    | mk flow u =>
      rw [handled] at first
      cases flow with
      | goOn => exact ih first
      | _ => exact first

theorem Reached.whole_step (reached : Reached config { gateway := g }) (event : Event) :
    Reached config { gateway := g.step event } := by
  cases event with
  | arrive transport now => exact .next reached (.arrives transport now)
  | send id readings chunk =>
    rw [Gateway.step]
    cases live : g.sessions.find? id with
    | none =>
      simp only [Gateway.send, live]
      exact reached
    | some session =>
      have framed : Reached config { gateway := g.after id ((g.visit session).framed chunk) } :=
        .next reached (.frames live rfl chunk)
      rw [Gateway.send_eq live, Visit.receive_eq]
      exact framed.whole_handleAll _
  | collect id =>
    exact .next reached (.receives id (·.drain) Court.Mailbox.received_drain)
  | depart id => exact .next reached (.departs rfl)
  | wait milliseconds => exact .next reached (.waits milliseconds)

end Whole

/-- Whatever the gateway comes to in a run, the floor can come to, with nobody speaking. -/
theorem reached_run {config : Config} {g : Gateway}
    (opened : Gateway.ofConfig .builtin config = .ok g) (events : List Event) :
    Reached config { gateway := g.run events } := by
  have further (g : Gateway) (reached : Reached config { gateway := g }) :
      Reached config { gateway := g.run events } := by
    induction events generalizing g with
    | nil => exact reached
    | cons event events ih => exact ih (g.step event) (reached.whole_step event)
  exact further g (.opened opened)

end Floor
end CourtroomGateway
