import CourtroomGateway.Proofs.Gateway.Survival
import CourtroomGateway.Proofs.Wire.Framing

/-! How a client's bytes are cut into chunks. One chunk is framed as a whole before any of its
messages is handled; of two chunks the second is framed when the messages of the first are done.
That makes no difference, since no handler looks at the framer or at what the metrics count, and
no message closes the session before the rest is handled. -/

namespace CourtroomGateway

namespace Scene

def countOverflow (s : Scene) : Scene :=
  { s with
    hall :=
      { s.hall with
        metrics :=
          { s.hall.metrics with
            framingOverflows :=
              s.hall.metrics.framingOverflows.inc [s.client.transport.label] } } }

theorem reply_countOverflow (s : Scene) (p : Wire.Packet) :
    s.countOverflow.reply p = (s.reply p).countOverflow := rfl

theorem replyAll_countOverflow (s : Scene) (ps : List Wire.Packet) :
    s.countOverflow.replyAll ps = (s.replyAll ps).countOverflow := by
  induction ps generalizing s with
  | nil => rfl
  | cons p ps ih => exact ih (s.reply p)

theorem enter_countOverflow (s : Scene) (index : Nat) (area : Area) (lead : List Wire.Packet) :
    s.countOverflow.enter index area lead = (s.enter index area lead).countOverflow := by
  have released : s.countOverflow.releaseIfTaken index =
      (s.releaseIfTaken index).countOverflow := by
    unfold releaseIfTaken
    change (if s.client.isSpectator then _ else if s.taken index s.client.charId then _ else _) = _
    split
    · rfl
    split <;> rfl
  have joined : (s.releaseIfTaken index).countOverflow.join index =
      ((s.releaseIfTaken index).join index).countOverflow := rfl
  rw [enter, released, joined, replyAll_countOverflow]
  rfl

end Scene

namespace Commands

theorem Joining.perform_countOverflow (act : JoiningAct) (s : Scene) :
    Joining.perform act s.countOverflow = (Joining.perform act s).countOverflow := by
  cases act with
  | greet hardwareId =>
    have greeted : Joining.greeting s.countOverflow = Joining.greeting s := rfl
    simp only [Joining.perform, greeted]
    rw [← Scene.replyAll_countOverflow]
    rfl
  | identify software version => rfl
  | counts => exact s.reply_countOverflow (Joining.countPacket s.hall.config)
  | characters => exact s.reply_countOverflow (Joining.castPacket s.hall.config)
  | music => exact s.reply_countOverflow (Joining.musicPacket s.hall.config)
  | enter area => exact s.enter_countOverflow 0 area [.named "DONE"]
  | keepAlive => rfl

theorem Speaking.perform_countOverflow (act : SpeakingAct) (s : Scene) :
    Speaking.perform act s.countOverflow = (Speaking.perform act s).countOverflow := by
  cases act with
  | unread error => rfl
  | silent m => rfl
  | spoken area m =>
    have shown : Speaking.commitPose (Speaking.note s.countOverflow m) m =
        (Speaking.commitPose (Speaking.note s m) m).countOverflow := by
      unfold Speaking.commitPose
      split <;> rfl
    simp only [Speaking.perform, shown]
    rfl

theorem Music.perform_countOverflow (act : MusicAct) (s : Scene) :
    Music.perform act s.countOverflow = (Music.perform act s).countOverflow := by
  cases act with
  | stay => rfl
  | move index area => exact s.enter_countOverflow index area []
  | play area track showname => rfl

end Commands

theorem Request.perform_countOverflow (request : Request) (s : Scene) :
    request.perform s.countOverflow = (request.perform s).countOverflow := by
  cases request with
  | joining act => exact Commands.Joining.perform_countOverflow act s
  | character act => rfl
  | speaking act => exact Commands.Speaking.perform_countOverflow act s
  | chatting act => rfl
  | music act => exact Commands.Music.perform_countOverflow act s

theorem Scene.dispatch_countOverflow (s : Scene) (p : Wire.Packet) :
    Handlers.builtin.dispatch s.countOverflow p =
      { Handlers.builtin.dispatch s p with
        scene := (Handlers.builtin.dispatch s p).scene.countOverflow } := by
  have asked : s.countOverflow.request p = s.request p := rfl
  simp only [Handlers.dispatch_builtin, asked]
  cases s.request p with
  | error refusal =>
    simp only [Handlers.answer, Handlers.refuse]
    split <;> rfl
  | ok request =>
    simp only [Handlers.answer, request.perform_countOverflow s]
    rfl

namespace Visit

/-- The visit with another framer, after an overflow is counted if there was one. -/
def tend (v : Visit) (framer : Wire.Framer) (full : Bool) : Visit :=
  let v' := { v with session := { v.session with framer } }
  if full then v'.recordOverflow else v'

theorem framed_eq (v : Visit) (chunk : List UInt8) :
    v.framed chunk =
      v.tend (v.session.framer.feed chunk).2 (v.session.framer.feed chunk).1.overflow.isSome :=
  rfl

theorem tend_tend (v : Visit) (f f' : Wire.Framer) (full : Bool) :
    (v.tend f false).tend f' full = v.tend f' full := by
  cases full <;> rfl

section Handling
variable (v : Visit) (framer : Wire.Framer) (full : Bool)

theorem handle_tend (now : Nat) (message : String) :
    (v.tend framer full).handle .builtin now message =
      ((v.handle .builtin now message).1,
        (v.handle .builtin now message).2.tend framer full) := by
  have bucket : (v.tend framer full).session.bucket = v.session.bucket := by cases full <;> rfl
  unfold handle
  rw [bucket]
  cases Wire.Packet.parse? message with
  | none => rfl
  | some p =>
    cases checked : v.session.bucket.check now with
    | mk verdict next =>
      cases verdict with
      | drop => cases full <;> rfl
      | overflow => cases full <;> rfl
      | pass =>
        cases full with
        | false => rfl
        | true =>
          -- With the overflow counted, the turn begins in the same scene but for that count.
          let paid := { v with session := { v.session with bucket := next } }
          have turned : Handlers.builtin.dispatch (paid.tend framer true).scene p = _ :=
            paid.scene.dispatch_countOverflow p
          change ((Handlers.builtin.dispatch (paid.tend framer true).scene p).outcome.flow,
            (paid.tend framer true).withScene
              (Handlers.builtin.dispatch (paid.tend framer true).scene p).scene) = _
          rw [turned]
          rfl

theorem handleAll_tend (messages : List (Nat × String)) :
    (v.tend framer full).handleAll .builtin messages =
      ((v.handleAll .builtin messages).1,
        (v.handleAll .builtin messages).2.tend framer full) := by
  induction messages generalizing v with
  | nil => rfl
  | cons timed messages ih =>
    obtain ⟨now, message⟩ := timed
    simp only [handleAll, handle_tend]
    cases v.handle .builtin now message with
    | mk flow v' =>
      cases flow with
      | goOn => exact ih v'
      | _ => rfl

theorem framer_handleAll (messages : List (Nat × String)) :
    (v.handleAll .builtin messages).2.session.framer = v.session.framer := by
  have same := congrArg (·.2.session.framer) (v.handleAll_tend v.session.framer false messages)
  exact same

end Handling

section Cut
variable {handlers : Handlers} {v : Visit} {messages : List (Nat × String)}

theorem handleAll_append (later : List (Nat × String)) :
    v.handleAll handlers (messages ++ later) =
      if (v.handleAll handlers messages).1 = .goOn then
        (v.handleAll handlers messages).2.handleAll handlers later
      else v.handleAll handlers messages := by
  induction messages generalizing v with
  | nil => exact (if_pos rfl).symm
  | cons timed messages ih =>
    obtain ⟨now, message⟩ := timed
    rw [List.cons_append, handleAll, handleAll]
    cases handled : v.handle handlers now message with
    | mk flow v' =>
      cases flow with
      | goOn => exact ih
      | _ => exact (if_neg (by simp)).symm

/-- The flood clock stands still. -/
theorem timed_const (now : Nat) (messages : List String) :
    timed (fun _ => now) messages = messages.map (now, ·) :=
  List.ext_getElem (by simp [timed]) fun i _ _ => by simp [timed]

/-- When a flood check has overflowed and the clock stands still, nothing more is handled. -/
theorem handleAll_of_overflow {now : Nat} (overflow : v.session.bucket.refill? now = none)
    (later : List String) : (v.handleAll handlers (later.map (now, ·))).2 = v := by
  induction later with
  | nil => rfl
  | cons message later ih =>
    rw [List.map_cons, handleAll]
    cases parsed : Wire.Packet.parse? message with
    | none =>
      rw [handle_of_unparsed parsed]
      exact ih
    | some p =>
      have overflows : v.Overflows now message :=
        ⟨p, parsed, Flood.Bucket.verdict_eq_overflow_iff.2 overflow⟩
      rw [handle_of_overflow overflows]

/-- When a chunk was broken off, the flood check at its last message overflows. -/
theorem refill?_of_broken {now : Nat} {messages : List String}
    (broken : (v.handleAll handlers (messages.map (now, ·))).1 = .broken) :
    (v.handleAll handlers (messages.map (now, ·))).2.session.bucket.refill? now = none := by
  have ended : v.handleAll handlers (messages.map (now, ·)) =
      (.broken, (v.handleAll handlers (messages.map (now, ·))).2) := Prod.ext broken rfl
  obtain ⟨before, instant, message, later, u, split, -, handled⟩ :=
    (handleAll_eq_iff_of_ended (show Flow.broken ≠ .goOn from nofun)).1 ended
  obtain ⟨⟨p, parsed, overflow⟩, same⟩ := handle_eq_broken_iff.1 handled
  have mem : (instant, message) ∈ messages.map (now, ·) := by
    rw [split]
    exact List.mem_append_right _ List.mem_cons_self
  obtain ⟨_, -, here⟩ := List.mem_map.1 mem
  obtain ⟨rfl, -⟩ := Prod.mk.inj here
  rw [same]
  exact Flood.Bucket.verdict_eq_overflow_iff.1 overflow

end Cut

/-- What comes after the cut is handled when the session goes on, and otherwise only framed. -/
theorem receive_append {v : Visit} {now : Nat} {a : List UInt8}
    (fits : (v.session.framer.feed a).1.overflow = none) (b : List UInt8) :
    v.receive .builtin (fun _ => now) (a ++ b) =
      if (v.receive .builtin (fun _ => now) a).1 = .goOn then
        (v.receive .builtin (fun _ => now) a).2.receive .builtin (fun _ => now) b
      else
        ((v.receive .builtin (fun _ => now) a).1,
          (v.receive .builtin (fun _ => now) a).2.framed b) := by
  have first : v.framed a = v.tend (v.session.framer.feed a).2 false := by
    rw [framed_eq, fits]
    rfl
  have framer : (v.receive .builtin (fun _ => now) a).2.session.framer =
      (v.session.framer.feed a).2 := by
    rw [receive_eq, framer_handleAll, first]
    rfl
  have whole : v.framed (a ++ b) =
      (v.framed a).tend ((v.session.framer.feed a).2.feed b).2
        ((v.session.framer.feed a).2.feed b).1.overflow.isSome := by
    rw [first, tend_tend, framed_eq, Wire.Framer.feed_append fits]
  have last : (v.receive .builtin (fun _ => now) a).2.framed b =
      (v.receive .builtin (fun _ => now) a).2.tend ((v.session.framer.feed a).2.feed b).2
        ((v.session.framer.feed a).2.feed b).1.overflow.isSome := by
    rw [framed_eq, framer]
  have earlier := (v.framed a).handleAll_tend ((v.session.framer.feed a).2.feed b).2
    ((v.session.framer.feed a).2.feed b).1.overflow.isSome
    (timed (fun _ => now) (v.session.framer.feed a).1.messages)
  have messages : timed (fun _ => now) (v.session.framer.feed (a ++ b)).1.messages =
      timed (fun _ => now) (v.session.framer.feed a).1.messages ++
        timed (fun _ => now) ((v.session.framer.feed a).2.feed b).1.messages := by
    rw [Wire.Framer.feed_append fits]
    simp only [timed_const, List.map_append]
  rw [← receive_eq, ← last] at earlier
  rw [receive_eq, whole, messages, handleAll_append, earlier]
  dsimp only
  split
  · rw [receive_eq _ _ (v.receive .builtin (fun _ => now) a).2, framer]
  · rfl

/-- Where no message closes the session, the cut is not seen in what is left of the visit. -/
theorem uncut_receive {v : Visit} {now : Nat} {a : List UInt8}
    (fits : (v.session.framer.feed a).1.overflow = none)
    (survives : ∀ why, (v.receive .builtin (fun _ => now) a).1 ≠ .close why) (b : List UInt8) :
    (v.receive .builtin (fun _ => now) (a ++ b)).2 =
        ((v.receive .builtin (fun _ => now) a).2.receive .builtin (fun _ => now) b).2 ∧
      (v.receive .builtin (fun _ => now) (a ++ b)).1 =
        if (v.receive .builtin (fun _ => now) a).1 = .goOn then
          ((v.receive .builtin (fun _ => now) a).2.receive .builtin (fun _ => now) b).1
        else (v.receive .builtin (fun _ => now) a).1 := by
  rw [receive_append fits]
  cases flow : (v.receive .builtin (fun _ => now) a).1 with
  | goOn => exact ⟨rfl, rfl⟩
  | close why => exact absurd flow (survives why)
  | broken =>
    -- At the same instant every further packet overflows again.
    rw [receive_eq, timed_const] at flow
    have overflow := refill?_of_broken flow
    rw [← timed_const, ← receive_eq, ← bucket_framed _ b] at overflow
    have idle : ((v.receive .builtin (fun _ => now) a).2.receive .builtin (fun _ => now) b).2 =
        (v.receive .builtin (fun _ => now) a).2.framed b := by
      rw [receive_eq, timed_const]
      exact handleAll_of_overflow overflow _
    exact ⟨idle.symm, rfl⟩

end Visit

namespace Gateway

/-- In every state that can be reached, and with the flood clock standing still, a chunk may be cut
wherever what comes before the cut does not overflow: the gateway ends in the same state. The
session goes on as it does after the rest, or broke off before the rest came. -/
theorem send_append {config : Config} {g : Gateway} (reached : Reached config g) {id : Nat}
    {session : Session} (live : g.sessions.find? id = some session) (now : Nat) {a : List UInt8}
    (fits : (session.framer.feed a).1.overflow = none) (b : List UInt8) :
    (g.send id (fun _ => now) (a ++ b)).2 =
        ((g.send id (fun _ => now) a).2.send id (fun _ => now) b).2 ∧
      (g.send id (fun _ => now) (a ++ b)).1 =
        if (g.send id (fun _ => now) a).1 = .goOn then
          ((g.send id (fun _ => now) a).2.send id (fun _ => now) b).1
        else (g.send id (fun _ => now) a).1 := by
  have builtin : g.handlers = .builtin := reached.sound.1.builtin
  have survives := send_ne_close reached live (fun _ => now) a
  have rest (u : Visit) : (g.after id u).send id (fun _ => now) b =
      ((u.receive g.handlers (fun _ => now) b).1,
        g.after id (u.receive g.handlers (fun _ => now) b).2) := by
    rw [send_eq (g.live_after id u), after_after]
    rfl
  simp only [send_eq live, rest, builtin] at survives ⊢
  obtain ⟨state, flow⟩ := Visit.uncut_receive fits survives b
  exact ⟨congrArg (g.after id) state, flow⟩

/-- The smallest buffer that a configuration may ask for. -/
def narrow : Config := { courthouse with server := { maxBuffer := 256 } }

/-- One client plays in the lobby, and another has the second area to itself. -/
def recess : Gateway :=
  (unvisited narrow).run
    [.arrive .tcp 0, .arrive .ws 0, feeds 0 "CC#0#0#%RD#%", feeds 1 "RD#%MC#Courtroom#1#%",
      .collect 0, .collect 1]

/-- The cut goes through a terminator, and what follows the last one is too long. -/
theorem send_append_recess :
    let before := Text.Utf8.encode "CT#Nick#Wait!#"
    let rest := Text.Utf8.encode "%MC#Courtroom#0#%CT#Nick#Hm.#%" ++ List.replicate 300 0x41
    Reached narrow recess ∧
      (recess.send 0 (fun _ => 0) (before ++ rest)).2 =
        ((recess.send 0 (fun _ => 0) before).2.send 0 (fun _ => 0) rest).2 ∧
      (recess.send 0 (fun _ => 0) (before ++ rest)).1 = .goOn ∧
      let after := (recess.send 0 (fun _ => 0) (before ++ rest)).2
      after.hall.court.waitingFor 0 =
          ["CT#Nick#Wait!#0#%", "BN#default#%", "LE#%", "CT#Nick#Hm.#0#%"] ∧
        after.hall.court.waitingFor 1 = ["CT#Nick#Hm.#0#%"] ∧
        after.hall.metrics.framingOverflows.get [Transport.tcp.label] = 1 := by
  intro before rest
  have reached : Reached narrow recess := reached_run (ofConfig_of_clean (by decide)) _
  have evaluated : ((recess.sessions.find? 0).map fun session =>
      (session.framer.feed before).1.overflow) = some none := by
    decide +kernel
  obtain ⟨session, live, fits⟩ := Option.map_eq_some_iff.1 evaluated
  exact ⟨reached, (send_append reached live 0 fits rest).1, by decide +kernel, by decide +kernel⟩

end Gateway
end CourtroomGateway
