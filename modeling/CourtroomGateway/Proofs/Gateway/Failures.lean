import CourtroomGateway.Proofs.Gateway.Survival

/-! Where the failure of a handler stops. The handlers of a gateway may be extended by others, and
those may fail in ways in which the built-in ones do not. As long as they fail before they change
anything, a failure closes the one session, at the one message, and all that is left of it is what
the metrics count and the token it cost. A flood check that overflows breaks the session off as
well, and leaves nothing. -/

namespace CourtroomGateway

theorem Rule.careful {α : Type} (rule : Rule α) : rule.handle.Careful := by
  intro s p failed
  cases outcome : (rule.handle s p).outcome with
  | done => exact absurd outcome failed
  | crashed => exact absurd outcome (rule.not_crashed s p)
  | refused fault => exact Rule.scene_of_refused outcome

namespace Handlers

/-- The built-in handlers and further ones, registered in order. -/
def extended (further : List (List String × Handler)) : Handlers :=
  further.foldl (fun hs entry => hs.register entry.1 entry.2) builtin

theorem careful_builtin : builtin.Careful := by
  intro command handler found
  rw [find?_builtin] at found
  repeat' split at found
  all_goals cases found
  all_goals exact Rule.careful _

theorem Careful.register {hs : Handlers} (careful : hs.Careful) (commands : List String)
    {handler : Handler} (own : handler.Careful) : (hs.register commands handler).Careful := by
  intro command other found
  rw [find?_register] at found
  split at found
  · cases found
    exact own
  · exact careful command other found

theorem careful_extended {further : List (List String × Handler)}
    (careful : ∀ entry ∈ further, entry.2.Careful) : (extended further).Careful := by
  have registered (hs : Handlers) (before : hs.Careful) :
      (further.foldl (fun hs entry => hs.register entry.1 entry.2) hs).Careful := by
    induction further generalizing hs with
    | nil => exact before
    | cons entry further ih =>
      obtain ⟨own, rest⟩ := List.forall_mem_cons.1 careful
      exact ih rest _ (before.register entry.1 own)
  exact registered builtin careful_builtin

end Handlers

/-- A message that fails leaves all that is shared as it was, but for the metrics, and of its own
session it changes the flood bucket. -/
theorem Visit.Fails.unchanged {handlers : Handlers} {now : Nat} {v w : Visit} {message : String}
    {why : Closing} (fails : v.Fails handlers now message why w) :
    (∃ metrics, w.hall = { v.hall with metrics }) ∧ w.session = (v.charged now).session := by
  cases fails with
  | crash parsed allowed found crashed => exact ⟨⟨v.hall.metrics, rfl⟩, rfl⟩
  | fault parsed allowed found refused severe => exact ⟨⟨_, rfl⟩, rfl⟩

namespace Gateway

/-- Whatever a gateway was extended with, as long as handlers that fail have changed nothing: a
chunk is handled message by message, each at its own instant. The session goes on exactly if all are
survived, with the effects of all. It is closed exactly if a message fails and those before it are
survived: these have their effects, the first that fails gives the reason, and nothing depends on
those behind it. It breaks off exactly if the flood check of a message overflows and those before it
are survived, and this message has no effect at all; where no check of the chunk overflows, that
does not happen. The message that fails leaves the rest of the hall and all other sessions as they
were. -/
theorem send_until_failure {further : List (List String × Handler)}
    (careful : ∀ entry ∈ further, entry.2.Careful) {g : Gateway}
    (extended : g.handlers = .extended further) {id : Nat} {session : Session}
    (live : g.sessions.find? id = some session) (readings : Nat → Nat) (chunk : List UInt8) :
    let start := (g.visit session).framed chunk
    let messages := Visit.timed readings (session.framer.feed chunk).1.messages
    (∀ g', g.send id readings chunk = (.goOn, g') ↔
      ∃ w, start.Carried g.handlers messages w ∧ g' = g.after id w) ∧
    (∀ why g', g.send id readings chunk = (.close why, g') ↔
      ∃ before now message later v w, messages = before ++ (now, message) :: later ∧
        start.Carried g.handlers before v ∧ v.Fails g.handlers now message why w ∧
        g' = g.after id w) ∧
    (∀ g', g.send id readings chunk = (.broken, g') ↔
      ∃ before now message later v, messages = before ++ (now, message) :: later ∧
        start.Carried g.handlers before v ∧ v.Overflows now message ∧ g' = g.after id v) ∧
    (.overflow ∉ session.bucket.checks (Flood.Bucket.instants messages) →
      (g.send id readings chunk).1 ≠ .broken) ∧
    (∀ (v : Visit) now message why w, v.Fails g.handlers now message why w →
      (∃ metrics, w.hall = { v.hall with metrics }) ∧ w.session = (v.charged now).session ∧
        ∀ i, i ≠ id → (g.after id w).sessions.find? i = g.sessions.find? i) ∧
    Closing.handlerCrash.reason = "handler panic" ∧
    Closing.handlerFault.reason = "handler error" := by
  intro start messages
  have careful : g.handlers.Careful := extended ▸ Handlers.careful_extended careful
  have sent (flow : Flow) (g' : Gateway) : g.send id readings chunk = (flow, g') ↔
      ∃ w, start.handleAll g.handlers messages = (flow, w) ∧ g' = g.after id w := by
    rw [send_eq live, Visit.receive_eq]
    simp only [Prod.ext_iff]
    constructor
    · rintro ⟨rfl, rfl⟩
      exact ⟨_, ⟨rfl, rfl⟩, rfl⟩
    · rintro ⟨w, ⟨rfl, rfl⟩, rfl⟩
      exact ⟨rfl, rfl⟩
  have breaks (g' : Gateway) : g.send id readings chunk = (.broken, g') ↔
      ∃ before now message later v, messages = before ++ (now, message) :: later ∧
        start.Carried g.handlers before v ∧ v.Overflows now message ∧ g' = g.after id v := by
    simp only [sent, Visit.handleAll_eq_iff_of_ended (show Flow.broken ≠ .goOn from nofun),
      Visit.handle_eq_broken_iff]
    constructor
    · rintro ⟨v, ⟨before, now, message, later, _, split, carried, overflows, rfl⟩, same⟩
      exact ⟨before, now, message, later, v, split, carried, overflows, same⟩
    · rintro ⟨before, now, message, later, v, split, carried, overflows, same⟩
      exact ⟨v, ⟨before, now, message, later, v, split, carried, overflows, rfl⟩, same⟩
  refine ⟨fun g' => ?_, fun why g' => ?_, breaks, fun spared broken => ?_,
    fun v now message why w fails => ?_, rfl, rfl⟩
  · simp only [sent, Visit.handleAll_eq_goOn_iff]
  · simp only [sent, Visit.handleAll_eq_iff_of_ended (show Flow.close why ≠ .goOn from nofun),
      Visit.handle_eq_close_iff careful]
    constructor
    · rintro ⟨w, ⟨before, now, message, later, v, split, carried, fails⟩, same⟩
      exact ⟨before, now, message, later, v, w, split, carried, fails, same⟩
    · rintro ⟨before, now, message, later, v, w, split, carried, fails, same⟩
      exact ⟨w, ⟨before, now, message, later, v, split, carried, fails⟩, same⟩
  · obtain ⟨before, now, message, later, v, split, carried, overflows, -⟩ :=
      (breaks _).1 (Prod.ext broken rfl)
    rw [← Flood.Bucket.unheard_eq_nil_iff, split, ← (g.visit session).bucket_framed chunk,
      carried.unheard, overflows.unheard] at spared
    exact List.cons_ne_nil _ _ spared
  · obtain ⟨hall, own⟩ := fails.unchanged
    exact ⟨hall, own, fun i apart => by rw [find?_after, if_neg apart]⟩

/-- Fails in each of the three ways. -/
def faulty : Handler := fun s p =>
  if p.command = "BOOM" then ⟨s, .crashed⟩
  else if p.command = "FAIL" then ⟨s, .refused (.internal "state corrupted")⟩
  else ⟨s, .refused (.notAllowed "no")⟩

theorem careful_faulty : faulty.Careful := by
  intro s p _
  unfold faulty
  repeat' split
  all_goals rfl

def faultyCommands : List (List String × Handler) := [(["BOOM", "FAIL", "DENY"], faulty)]

/-- The gateway of `courthouse`, extended with `faulty`, before anyone arrives. -/
def brittle : Gateway where
  handlers := .extended faultyCommands
  hall := { config := courthouse }

/-- A refusal, a message that is no packet and an answer come before the failure, and an answer and
a crash behind it. -/
def trouble : List UInt8 := Text.Utf8.encode "DENY#%#%CH#%FAIL#%CH#%BOOM#%"

/-- Of the two answers that are asked for the client gets one, and it pays for three packets. -/
theorem send_until_failure_trouble :
    Gateway.ofConfig (.extended faultyCommands) courthouse = .ok brittle ∧
      (∀ entry ∈ faultyCommands, entry.2.Careful) ∧
      let g := brittle.run [.arrive .tcp 0, .collect 0]
      g.handlers = .extended faultyCommands ∧ ∃ session, g.sessions.find? 0 = some session ∧
        (∃ before now message later v w,
          Visit.timed id (session.framer.feed trouble).1.messages =
            before ++ (now, message) :: later ∧
          ((g.visit session).framed trouble).Carried g.handlers before v ∧
          v.Fails g.handlers now message .handlerFault w ∧
          g.send 0 id trouble = (.close .handlerFault, g.after 0 w) ∧
          ∃ metrics, w.hall = { v.hall with metrics }) ∧
        let after := (g.send 0 id trouble).2
        after.hall.court.waitingFor 0 = ["CHECK#%"] ∧
          (after.sessions.find? 0).map (·.bucket.tokens) =
            some (courthouse.flood.burst - 3) := by
  have careful : ∀ entry ∈ faultyCommands, entry.2.Careful :=
    List.forall_mem_singleton.2 careful_faulty
  let g := brittle.run [.arrive .tcp 0, .collect 0]
  have closed : (g.send 0 id trouble).1 = .close .handlerFault := by decide +kernel
  have there : (g.sessions.find? 0).isSome := by decide +kernel
  obtain ⟨session, live⟩ := Option.isSome_iff_exists.1 there
  obtain ⟨-, closes, -, -, unchanged, -⟩ := send_until_failure careful (g := g) rfl live id trouble
  have sent : g.send 0 id trouble = (.close .handlerFault, (g.send 0 id trouble).2) :=
    Prod.ext closed rfl
  obtain ⟨before, now, message, later, v, w, split, carried, fails, same⟩ := (closes _ _).1 sent
  obtain ⟨hall, -⟩ := unchanged v now message _ w fails
  refine ⟨rfl, careful, rfl, session, live, ?_, by decide +kernel⟩
  exact ⟨before, now, message, later, v, w, split, carried, fails, same ▸ sent, hall⟩

/-- Under a lavish allowance a session breaks off a second after its client arrived: a crash that
comes behind is not met, and the packet before it is neither answered nor dropped nor counted. -/
theorem exists_send_broken_off :
    let g := { unvisited lavish with handlers := .extended faultyCommands }.run [.arrive .tcp 0]
    let sent := g.send 0 (fun _ => 1000 * Flood.Bucket.millisecond)
      (Text.Utf8.encode "CH#%BOOM#%")
    Gateway.ofConfig (.extended faultyCommands) lavish =
        .ok { unvisited lavish with handlers := .extended faultyCommands } ∧
      sent.1 = .broken ∧ sent.2.hall.court.waitingFor 0 = ["decryptor#34#%"] ∧
      sent.2.hall.metrics.floodDrops.get [] = 0 ∧
      (sent.2.hall.metrics.dispatchDuration.get [⟨"cmd", "CH"⟩]).count = 0 := by
  refine ⟨?_, by decide +kernel⟩
  rw [Gateway.ofConfig, Hall.ofConfig]
  rfl

end Gateway
end CourtroomGateway
