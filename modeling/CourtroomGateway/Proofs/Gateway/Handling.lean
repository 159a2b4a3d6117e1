import CourtroomGateway.Proofs.Gateway.Steps

/-! How the messages of a chunk are handled, told without the loop. Of each message it is said what
becomes of it when the session goes on, in which ways its handler can fail so that the session is
closed, and when its flood check breaks the session off. The messages before the first that ends
the session are all carried out, and those behind it are not looked at. -/

namespace CourtroomGateway

/-- The session goes on after this. -/
def Outcome.IsSurvivable : Outcome → Prop
  | done => True
  | refused fault => fault.isRecoverable
  | crashed => False

theorem Outcome.flow_ne_broken (outcome : Outcome) : outcome.flow ≠ .broken := by
  unfold flow
  grind

theorem Outcome.isSurvivable_iff {outcome : Outcome} :
    outcome.IsSurvivable ↔ outcome.flow = .goOn := by
  cases outcome with
  | done => simp [IsSurvivable, flow]
  | crashed => simp [IsSurvivable, flow]
  | refused fault =>
    cases recoverable : fault.isRecoverable <;> simp [IsSurvivable, flow, recoverable]

/-- A handler that fails has changed nothing. -/
def Handler.Careful (handler : Handler) : Prop :=
  ∀ s p, (handler s p).outcome ≠ .done → (handler s p).scene = s

namespace Handlers

def Careful (hs : Handlers) : Prop :=
  ∀ command handler, hs.table.find? command = some handler → handler.Careful

section Dispatch
variable {hs : Handlers} {s : Scene} {p : Wire.Packet} {handler : Handler}

/-- A packet without a handler, or with one that does what it asks, closes no session. -/
theorem flow_dispatch_of_missing (missing : hs.table.find? p.command = none) :
    (hs.dispatch s p).outcome.flow = .goOn := by
  simp only [dispatch, missing]
  rfl

theorem flow_dispatch_of_done (found : hs.table.find? p.command = some handler)
    (done : (handler s p).outcome = .done) : (hs.dispatch s p).outcome.flow = .goOn := by
  simp only [dispatch, found, done]
  rfl

theorem dispatch_of_crashed (careful : hs.Careful)
    (found : hs.table.find? p.command = some handler)
    (crashed : (handler s p).outcome = .crashed) : hs.dispatch s p = ⟨s, .crashed⟩ := by
  have kept := careful p.command handler found s p (by simp [crashed])
  have reaction : handler s p = ⟨(handler s p).scene, (handler s p).outcome⟩ := rfl
  simp only [dispatch, found, crashed]
  rw [reaction, kept, crashed]

theorem dispatch_of_refused (careful : hs.Careful)
    (found : hs.table.find? p.command = some handler) {fault : Fault}
    (refused : (handler s p).outcome = .refused fault) :
    hs.dispatch s p =
      ⟨recordFault p.command fault (recordDuration p.command s.hall.clock s),
        .refused fault⟩ := by
  have kept := careful p.command handler found s p (by simp [refused])
  simp only [dispatch, found, refused, kept]

end Dispatch
end Handlers

namespace Flood.Bucket

/-- The instants at which the packets among the messages are checked. -/
def instants (messages : List (Nat × String)) : List Nat :=
  messages.filterMap fun timed => (Wire.Packet.parse? timed.2).map fun _ => timed.1

/-- The messages before the first packet whose check overflows. -/
def heard (b : Bucket) : List (Nat × String) → List (Nat × String)
  | [] => []
  | (now, message) :: messages =>
    if (Wire.Packet.parse? message).isNone then (now, message) :: b.heard messages
    else if (b.check now).1 = .overflow then []
    else (now, message) :: (b.check now).2.heard messages

/-- The messages from the first packet on whose check overflows. -/
def unheard (b : Bucket) : List (Nat × String) → List (Nat × String)
  | [] => []
  | (now, message) :: messages =>
    if (Wire.Packet.parse? message).isNone then b.unheard messages
    else if (b.check now).1 = .overflow then (now, message) :: messages
    else (b.check now).2.unheard messages

theorem heard_append_unheard (b : Bucket) (messages : List (Nat × String)) :
    b.heard messages ++ b.unheard messages = messages := by
  induction messages generalizing b with
  | nil => rfl
  | cons timed messages ih =>
    unfold heard unheard
    grind

theorem unheard_eq_nil_iff (b : Bucket) (messages : List (Nat × String)) :
    b.unheard messages = [] ↔ .overflow ∉ b.checks (instants messages) := by
  induction messages generalizing b with
  | nil => simp [unheard, instants, checks]
  | cons timed messages ih =>
    obtain ⟨now, message⟩ := timed
    cases parsed : Wire.Packet.parse? message with
    | none =>
      have rest : instants ((now, message) :: messages) = instants messages :=
        List.filterMap_cons_none (by rw [parsed, Option.map_none])
      rw [unheard, if_pos (by rw [parsed, Option.isNone_none]), rest]
      exact ih b
    | some p =>
      have rest : instants ((now, message) :: messages) = now :: instants messages :=
        List.filterMap_cons_some (by rw [parsed, Option.map_some])
      rw [unheard, if_neg (by rw [parsed]; simp), rest, checks, List.mem_cons, not_or]
      by_cases overflow : (b.check now).1 = .overflow
      · simp [overflow]
      · rw [if_neg overflow, ih, and_iff_right (Ne.symm overflow)]

end Flood.Bucket

namespace Visit

section Relations
variable (handlers : Handlers) (now : Nat)

/-- The flood check of a message's packet overflows. -/
def Overflows (v : Visit) (message : String) : Prop :=
  ∃ p, Wire.Packet.parse? message = some p ∧ (v.session.bucket.check now).1 = .overflow

/-- What becomes of a message after which the session goes on: it is no packet and costs nothing,
its packet is dropped, or the packet has its turn. -/
inductive Survives (v : Visit) (message : String) : Visit → Prop
  | skipped (unparsed : Wire.Packet.parse? message = none) : Survives v message v
  | dropped {p : Wire.Packet} (parsed : Wire.Packet.parse? message = some p)
      (exceeds : (v.session.bucket.check now).1 = .drop) :
      Survives v message (v.charged now).recordDrop
  | turned {p : Wire.Packet} (parsed : Wire.Packet.parse? message = some p)
      (allowed : (v.session.bucket.check now).1 = .pass)
      (survived : (handlers.dispatch v.scene p).outcome.IsSurvivable) :
      Survives v message ((v.charged now).withScene (handlers.dispatch v.scene p).scene)

/-- All messages are handled in order, each at its instant, and the session goes on. -/
inductive Carried : Visit → List (Nat × String) → Visit → Prop
  | done (v : Visit) : Carried v [] v
  | next {v u w : Visit} {now : Nat} {message : String} {messages : List (Nat × String)}
      (first : Survives handlers now v message u) (rest : Carried u messages w) :
      Carried v ((now, message) :: messages) w

/-- How the handler of a message's packet fails so that the session is closed. The packet is paid
for; a fault is counted and timed, and a crash is not. -/
inductive Fails (v : Visit) (message : String) : Closing → Visit → Prop
  | crash {p : Wire.Packet} {handler : Handler} (parsed : Wire.Packet.parse? message = some p)
      (allowed : (v.session.bucket.check now).1 = .pass)
      (found : handlers.table.find? p.command = some handler)
      (crashed : (handler v.scene p).outcome = .crashed) :
      Fails v message .handlerCrash (v.charged now)
  | fault {p : Wire.Packet} {handler : Handler} {fault : Fault}
      (parsed : Wire.Packet.parse? message = some p)
      (allowed : (v.session.bucket.check now).1 = .pass)
      (found : handlers.table.find? p.command = some handler)
      (refused : (handler v.scene p).outcome = .refused fault)
      (severe : ¬ fault.isRecoverable) :
      Fails v message .handlerFault
        ((v.charged now).withScene
          (Handlers.recordFault p.command fault
            (Handlers.recordDuration p.command v.hall.clock v.scene)))

end Relations

theorem bucket_framed (v : Visit) (chunk : List UInt8) :
    (v.framed chunk).session.bucket = v.session.bucket := by
  unfold framed
  split <;> rfl

section Heard
variable {handlers : Handlers} {now : Nat} {v u : Visit} {message : String}

theorem Overflows.heard (overflows : v.Overflows now message) (messages : List (Nat × String)) :
    v.session.bucket.heard ((now, message) :: messages) = [] := by
  obtain ⟨p, parsed, overflow⟩ := overflows
  simp [Flood.Bucket.heard, parsed, overflow]

theorem Overflows.unheard (overflows : v.Overflows now message)
    (messages : List (Nat × String)) :
    v.session.bucket.unheard ((now, message) :: messages) = (now, message) :: messages := by
  obtain ⟨p, parsed, overflow⟩ := overflows
  simp [Flood.Bucket.unheard, parsed, overflow]

theorem Survives.heard (survives : v.Survives handlers now message u)
    (messages : List (Nat × String)) :
    v.session.bucket.heard ((now, message) :: messages) =
      (now, message) :: u.session.bucket.heard messages := by
  cases survives with
  | skipped unparsed => simp [Flood.Bucket.heard, unparsed]
  | dropped parsed exceeds =>
    simp [Flood.Bucket.heard, parsed, exceeds, charged, recordDrop]
  | turned parsed allowed survived =>
    simp [Flood.Bucket.heard, parsed, allowed, charged, withScene]

theorem Survives.unheard (survives : v.Survives handlers now message u)
    (messages : List (Nat × String)) :
    v.session.bucket.unheard ((now, message) :: messages) =
      u.session.bucket.unheard messages := by
  cases survives with
  | skipped unparsed => simp [Flood.Bucket.unheard, unparsed]
  | dropped parsed exceeds =>
    simp [Flood.Bucket.unheard, parsed, exceeds, charged, recordDrop]
  | turned parsed allowed survived =>
    simp [Flood.Bucket.unheard, parsed, allowed, charged, withScene]

end Heard

section Handling
variable {handlers : Handlers} {now : Nat} {v w : Visit} {message : String}
  {messages : List (Nat × String)}

theorem handle_of_unparsed (unparsed : Wire.Packet.parse? message = none) :
    v.handle handlers now message = (.goOn, v) := by
  simp only [handle, unparsed]

theorem handle_of_drop {p : Wire.Packet} (parsed : Wire.Packet.parse? message = some p)
    (exceeds : (v.session.bucket.check now).1 = .drop) :
    v.handle handlers now message = (.goOn, (v.charged now).recordDrop) := by
  simp only [handle, parsed, exceeds, charged]

/-- A flood check that overflows leaves everything as it was. -/
theorem handle_of_overflow (overflows : v.Overflows now message) :
    v.handle handlers now message = (.broken, v) := by
  obtain ⟨p, parsed, overflow⟩ := overflows
  have checked := Flood.Bucket.check_of_overflow (Flood.Bucket.verdict_eq_overflow_iff.1 overflow)
  simp only [handle, parsed, checked]

theorem handle_of_pass {p : Wire.Packet} (parsed : Wire.Packet.parse? message = some p)
    (allowed : (v.session.bucket.check now).1 = .pass) :
    v.handle handlers now message =
      ((handlers.dispatch v.scene p).outcome.flow,
        (v.charged now).withScene (handlers.dispatch v.scene p).scene) := by
  simp only [handle, parsed, allowed]
  rfl

/-- A packet that passes flood control has its turn. -/
theorem handle_of_packet {p : Wire.Packet} (heard : v.packet? now message = some p) :
    v.handle handlers now message =
      ((handlers.dispatch v.scene p).outcome.flow,
        (v.charged now).withScene (handlers.dispatch v.scene p).scene) := by
  have parsed := parse_of_packet? heard
  unfold packet? at heard
  cases verdict : (v.session.bucket.check now).1 with
  | pass => exact handle_of_pass parsed verdict
  | _ => simp [verdict] at heard

theorem handle_eq_goOn_iff :
    v.handle handlers now message = (.goOn, w) ↔ v.Survives handlers now message w := by
  constructor
  · intro handled
    cases parsed : Wire.Packet.parse? message with
    | none =>
      rw [handle_of_unparsed parsed] at handled
      obtain rfl := (Prod.ext_iff.1 handled).2
      exact .skipped parsed
    | some p =>
      cases verdict : (v.session.bucket.check now).1 with
      | drop =>
        rw [handle_of_drop parsed verdict] at handled
        obtain rfl := (Prod.ext_iff.1 handled).2
        exact .dropped parsed verdict
      | overflow =>
        rw [handle_of_overflow ⟨p, parsed, verdict⟩] at handled
        cases handled
      | pass =>
        rw [handle_of_pass parsed verdict] at handled
        obtain ⟨goesOn, rfl⟩ := Prod.ext_iff.1 handled
        exact .turned parsed verdict (Outcome.isSurvivable_iff.2 goesOn)
  · intro survives
    cases survives with
    | skipped unparsed => exact handle_of_unparsed unparsed
    | dropped parsed exceeds => exact handle_of_drop parsed exceeds
    | turned parsed allowed survived =>
      rw [handle_of_pass parsed allowed, Outcome.isSurvivable_iff.1 survived]

theorem handleAll_eq_goOn_iff :
    v.handleAll handlers messages = (.goOn, w) ↔ v.Carried handlers messages w := by
  induction messages generalizing v with
  | nil =>
    constructor
    · intro handled
      obtain rfl := (Prod.ext_iff.1 handled).2
      exact .done v
    · rintro ⟨⟩
      rfl
  | cons timed messages ih =>
    obtain ⟨now, message⟩ := timed
    rw [handleAll]
    constructor
    · intro handled
      cases first : v.handle handlers now message with
      | mk flow u =>
        rw [first] at handled
        cases flow with
        | goOn => exact .next (handle_eq_goOn_iff.1 first) (ih.1 handled)
        | _ => cases handled
    · rintro (_ | ⟨first, rest⟩)
      rw [handle_eq_goOn_iff.2 first]
      exact ih.2 rest

theorem Carried.unheard (carried : v.Carried handlers messages w) (later : List (Nat × String)) :
    v.session.bucket.unheard (messages ++ later) = w.session.bucket.unheard later := by
  induction carried with
  | done v => rfl
  | next first rest ih =>
    rw [List.cons_append, first.unheard]
    exact ih

/-- What each message that is paid for keeps, all messages keep. -/
theorem Carried.keeps (holds : Visit → Prop)
    (drop : ∀ now v, holds v → holds (v.charged now).recordDrop)
    (turn : ∀ now v p, holds v →
      holds ((v.charged now).withScene (handlers.dispatch v.scene p).scene))
    (carried : v.Carried handlers messages w) (start : holds v) : holds w := by
  induction carried with
  | done v => exact start
  | next first rest ih =>
    cases first with
    | skipped unparsed => exact ih start
    | dropped parsed exceeds => exact ih (drop _ _ start)
    | turned parsed allowed survived => exact ih (turn _ _ _ start)

/-- The first message that ends the session decides, and those behind it play no part. -/
theorem handleAll_eq_iff_of_ended {flow : Flow} (ended : flow ≠ .goOn) :
    v.handleAll handlers messages = (flow, w) ↔
      ∃ before now message later u, messages = before ++ (now, message) :: later ∧
        v.Carried handlers before u ∧ u.handle handlers now message = (flow, w) := by
  -- The first message ends the session, or belongs to those that were carried out before.
  induction messages generalizing v with
  | nil =>
    constructor
    · intro handled
      exact absurd (Prod.ext_iff.1 handled).1.symm ended
    · rintro ⟨before, now, message, later, u, none, -, -⟩
      simp at none
  | cons timed messages ih =>
    obtain ⟨now, message⟩ := timed
    constructor
    · intro handled
      rw [handleAll] at handled
      cases first : v.handle handlers now message with
      | mk own u =>
        rw [first] at handled
        cases own with
        | goOn =>
          obtain ⟨before, instant, last, later, t, rfl, carried, ends⟩ := ih.1 handled
          exact ⟨(now, message) :: before, instant, last, later, t, rfl,
            .next (handle_eq_goOn_iff.1 first) carried, ends⟩
        | _ => exact ⟨[], now, message, messages, v, rfl, .done v, first.trans handled⟩
    · rintro ⟨before, instant, last, later, t, split, carried, ends⟩
      cases carried with
      | done =>
        obtain ⟨⟨rfl, rfl⟩, rfl⟩ : (now = instant ∧ message = last) ∧ messages = later := by
          simpa using split
        rw [handleAll, ends]
        cases flow with
        | goOn => exact absurd rfl ended
        | _ => rfl
      | next first rest =>
        obtain ⟨same, rfl⟩ := List.cons.inj split
        obtain ⟨rfl, rfl⟩ := Prod.ext_iff.1 same
        rw [handleAll, handle_eq_goOn_iff.2 first]
        exact ih.2 ⟨_, instant, last, later, t, rfl, rest, ends⟩

/-- A message breaks the session off exactly if its flood check overflows. -/
theorem handle_eq_broken_iff :
    v.handle handlers now message = (.broken, w) ↔ v.Overflows now message ∧ w = v := by
  constructor
  · intro handled
    cases parsed : Wire.Packet.parse? message with
    | none =>
      rw [handle_of_unparsed parsed] at handled
      cases handled
    | some p =>
      cases verdict : (v.session.bucket.check now).1 with
      | drop =>
        rw [handle_of_drop parsed verdict] at handled
        cases handled
      | pass =>
        rw [handle_of_pass parsed verdict] at handled
        exact absurd (Prod.ext_iff.1 handled).1 (Outcome.flow_ne_broken _)
      | overflow =>
        rw [handle_of_overflow ⟨p, parsed, verdict⟩] at handled
        exact ⟨⟨p, parsed, verdict⟩, (Prod.ext_iff.1 handled).2.symm⟩
  · rintro ⟨overflows, rfl⟩
    exact handle_of_overflow overflows

/-- A message closes the session if its handler fails in one of the two ways, as long as handlers
that fail change nothing. -/
theorem handle_eq_close_iff (careful : handlers.Careful) {why : Closing} :
    v.handle handlers now message = (.close why, w) ↔ v.Fails handlers now message why w := by
  constructor
  · intro handled
    cases parsed : Wire.Packet.parse? message with
    | none =>
      rw [handle_of_unparsed parsed] at handled
      cases handled
    | some p =>
      cases verdict : (v.session.bucket.check now).1 with
      | drop =>
        rw [handle_of_drop parsed verdict] at handled
        cases handled
      | overflow =>
        rw [handle_of_overflow ⟨p, parsed, verdict⟩] at handled
        cases handled
      | pass =>
        rw [handle_of_pass parsed verdict] at handled
        obtain ⟨closes, rfl⟩ := Prod.ext_iff.1 handled
        cases found : handlers.table.find? p.command with
        | none => cases closes.symm.trans (Handlers.flow_dispatch_of_missing found)
        | some handler =>
          cases outcome : (handler v.scene p).outcome with
          | done => cases closes.symm.trans (Handlers.flow_dispatch_of_done found outcome)
          | crashed =>
            rw [Handlers.dispatch_of_crashed careful found outcome] at closes ⊢
            cases closes
            exact .crash parsed verdict found outcome
          | refused fault =>
            rw [Handlers.dispatch_of_refused careful found outcome] at closes ⊢
            by_cases recoverable : fault.isRecoverable
            · simp [Outcome.flow, recoverable] at closes
            · simp only [Outcome.flow, recoverable] at closes
              cases closes
              exact .fault parsed verdict found outcome recoverable
  · intro fails
    cases fails with
    | crash parsed allowed found crashed =>
      rw [handle_of_pass parsed allowed, Handlers.dispatch_of_crashed careful found crashed]
      rfl
    | fault parsed allowed found refused severe =>
      rw [handle_of_pass parsed allowed, Handlers.dispatch_of_refused careful found refused,
        Outcome.flow, if_neg severe]
      rfl

end Handling
end Visit

namespace Gateway

theorem send_eq {g : Gateway} {id : Nat} {session : Session}
    (live : g.sessions.find? id = some session) (readings : Nat → Nat) (chunk : List UInt8) :
    g.send id readings chunk =
      (((g.visit session).receive g.handlers readings chunk).1,
        g.after id ((g.visit session).receive g.handlers readings chunk).2) := by
  simp only [send, live]
  rfl

end Gateway
end CourtroomGateway
