import CourtroomGateway.Proofs.Commands.Checks
import CourtroomGateway.Proofs.Gateway.Failures

/-! How long a client has been silent. Nothing notes that a session was heard from but the checks
of its own client that are not dropped: not what any other client does, however long that takes.
So a session has expired exactly if the last of its checks, or else its arrival, is as long ago as
the configuration allows. -/

namespace CourtroomGateway

namespace Handlers

theorem punctual_extended {further : List (List String × Handler)}
    (others : ∀ entry ∈ further, "CH" ∉ entry.1 ∧ entry.2.Inattentive) :
    (extended further).Punctual := by
  have registered (hs : Handlers) (before : hs.Punctual) :
      (further.foldl (fun hs entry => hs.register entry.1 entry.2) hs).Punctual := by
    induction further generalizing hs with
    | nil => exact before
    | cons entry further ih =>
      obtain ⟨⟨other, inattentive⟩, rest⟩ := List.forall_mem_cons.1 others
      exact ih rest _ (before.register other inattentive)
  exact registered builtin punctual_builtin

/-- A message is heard if it is a check that is not dropped. -/
theorem Punctual.heard_handle {hs : Handlers} (punctual : hs.Punctual) (now : Nat) (v : Visit)
    (message : String) :
    (v.handle hs now message).2.session.client.lastKeepalive =
      if ∃ p, v.packet? now message = some p ∧ p.command = "CH" then v.hall.clock
      else v.session.client.lastKeepalive := by
  cases parsed : Wire.Packet.parse? message with
  | none =>
    rw [Visit.handle_of_unparsed parsed, Visit.packet?, parsed]
    cases (v.session.bucket.check now).1 <;> simp
  | some p =>
    cases verdict : (v.session.bucket.check now).1 with
    | overflow =>
      rw [Visit.handle_of_overflow ⟨p, parsed, verdict⟩, Visit.packet?, verdict]
      simp
    | drop =>
      rw [Visit.handle_of_drop parsed verdict, Visit.packet?, verdict]
      simp [Visit.charged, Visit.recordDrop]
    | pass =>
      rw [Visit.handle_of_pass parsed verdict, Visit.packet?, verdict, parsed]
      refine (punctual v.scene p).last.trans ?_
      simp [Scene.heardAfter, Visit.scene]

end Handlers

/-- The instant of the client's last check in these turns, or else that of its arrival. -/
def lastCheck (id arrival : Nat) (ts : List Turn) : Nat :=
  let own := ts.reverse.find? fun t => t.1.client.id = id ∧ t.2.command = "CH"
  (own.map (·.1.hall.clock)).getD arrival

theorem lastCheck_append (id arrival : Nat) (ts us : List Turn) :
    lastCheck id arrival (ts ++ us) = lastCheck id (lastCheck id arrival ts) us := by
  simp only [lastCheck, List.reverse_append, List.find?_append]
  cases us.reverse.find? fun t => t.1.client.id = id ∧ t.2.command = "CH" <;> rfl

theorem lastCheck_singleton (id arrival : Nat) (t : Turn) :
    lastCheck id arrival [t] =
      if t.1.client.id = id ∧ t.2.command = "CH" then t.1.hall.clock else arrival := by
  by_cases own : t.1.client.id = id ∧ t.2.command = "CH" <;> simp [lastCheck, own]

theorem Hall.clock_openSession {h : Hall} {transport : Transport} {now : Nat} {v : Visit}
    (opened : h.openSession transport now = .ok v) : v.hall.clock = h.clock := by
  unfold openSession at opened
  dsimp only at opened
  split at opened
  · cases opened
  · cases opened
    rfl

namespace Gateway

/-- The turns from one gateway to another, while at any time receivers take wires or go away. -/
inductive Course (g : Gateway) : List Turn → Gateway → Prop
  | start : Course g [] g
  | passes {ts us : List Turn} {g₁ g₂ : Gateway} (before : Course g ts g₁)
      (onward : g₁.Passes us g₂) : Course g (ts ++ us) g₂
  | mail {ts : List Turn} {g₁ : Gateway} (before : Course g ts g₁)
      (mail : Table Nat Court.Mailbox) : Course g ts (g₁.withMail mail)

theorem course_run (g : Gateway) (events : List Event) :
    g.Course (g.turns events) (g.run events) :=
  .passes .start (g.passes_run events)

/-- What a step that is no turn does to the time. The sessions are those from before, or one that
has just been opened. -/
structure Idles (g g' : Gateway) : Prop where
  handlers : g'.handlers = g.handlers
  config : g'.hall.config = g.hall.config
  nextId : g.hall.court.roster.nextId ≤ g'.hall.court.roster.nextId
  clock : g.hall.clock ≤ g'.hall.clock
  session : ∀ id session, g'.sessions.find? id = some session →
    (∃ before, g.sessions.find? id = some before ∧ session.client = before.client) ∨
      id = g.hall.court.roster.nextId ∧ session.client.id = id

/-- Nothing happens to the sessions, the configuration and the roster. -/
theorem idles_inHall {g : Gateway} {hall : Hall} (config : hall.config = g.hall.config)
    (roster : hall.court.roster = g.hall.court.roster) (clock : g.hall.clock ≤ hall.clock) :
    g.Idles { g with hall } :=
  ⟨rfl, config, by rw [roster], clock, fun _ session live => .inl ⟨session, live, rfl⟩⟩

theorem idles_after {g : Gateway} {id : Nat} {session : Session}
    (live : g.sessions.find? id = some session) {v : Visit}
    (config : v.hall.config = g.hall.config)
    (roster : v.hall.court.roster = g.hall.court.roster) (clock : g.hall.clock ≤ v.hall.clock)
    (client : v.session.client = session.client) : g.Idles (g.after id v) := by
  refine ⟨rfl, config, by rw [after, roster], clock, fun i other found => .inl ?_⟩
  rw [find?_after] at found
  split at found
  next same =>
    cases found
    exact ⟨session, same ▸ live, client⟩
  next => exact ⟨other, found, rfl⟩

theorem idles_arrive (g : Gateway) (transport : Transport) (now : Nat) :
    g.Idles (g.arrive transport now).2 := by
  unfold arrive
  cases opened : g.hall.openSession transport now with
  | error refusal => exact idles_inHall rfl rfl le_rfl
  | ok v =>
    obtain ⟨-, config, roster, -, -, client⟩ := Hall.openSession_ok opened
    refine ⟨rfl, config, ?_, (Hall.clock_openSession opened).ge, fun i session found => ?_⟩
    · rw [roster]
      exact Nat.le_succ _
    · rw [Table.find?_insert] at found
      split at found
      next same =>
        cases found
        exact .inr ⟨by rw [same, client], same.symm⟩
      next => exact .inl ⟨session, found, rfl⟩

theorem idles_depart (g : Gateway) (id : Nat) : g.Idles (g.depart id) := by
  unfold depart
  cases g.sessions.find? id with
  | none => exact idles_inHall rfl rfl le_rfl
  | some session =>
    refine ⟨rfl, rfl, ?_, le_rfl, fun i other found => .inl ?_⟩
    · rw [Hall.roster_endSession]
      exact le_rfl
    · rw [Table.find?_erase] at found
      split at found
      · cases found
      · exact ⟨other, found, rfl⟩

theorem idles_quiet {g g' : Gateway} (step : Step (fun _ _ => False) g g') : g.Idles g' := by
  cases step with
  | arrive transport now => exact g.idles_arrive transport now
  | depart id => exact g.idles_depart id
  | tend live framer bucket => exact idles_after live rfl rfl le_rfl rfl
  | overflow live => exact idles_after live rfl rfl le_rfl rfl
  | drop live => exact idles_after live rfl rfl le_rfl rfl
  | turn live parsed admitted => exact admitted.elim
  | collect id => exact idles_inHall rfl rfl le_rfl
  | wait milliseconds => exact idles_inHall rfl rfl (Nat.le_add_right _ _)

/-- The handlers are punctual, the configuration stays, and sessions are kept by the ids of their
clients. -/
structure Keeping (config : Config) (g : Gateway) : Prop where
  punctual : g.handlers.Punctual
  config_eq : g.hall.config = config
  named : ∀ id session, g.sessions.find? id = some session → session.client.id = id

theorem Keeping.idle {config : Config} {g g' : Gateway} (h : Keeping config g)
    (idles : g.Idles g') : Keeping config g' where
  punctual := idles.handlers ▸ h.punctual
  config_eq := idles.config.trans h.config_eq
  named id session live := by
    rcases idles.session id session live with ⟨before, found, client⟩ | ⟨-, named⟩
    · rw [client, h.named id before found]
    · exact named

theorem Keeping.turn {config : Config} {g : Gateway} (h : Keeping config g) {id : Nat}
    {session : Session} (live : g.sessions.find? id = some session) (p : Wire.Packet) :
    Keeping config (g.afterTurn id session p) := by
  have timed := h.punctual (g.visit session).scene p
  refine ⟨h.punctual, timed.config.trans h.config_eq, fun i other found => ?_⟩
  rw [afterTurn, find?_after] at found
  split at found
  next same =>
    cases found
    exact timed.id.trans ((h.named id session live).trans same.symm)
  next => exact h.named i other found

theorem Keeping.passes {config : Config} {g g' : Gateway} {ts : List Turn}
    (h : Keeping config g) (passes : g.Passes ts g') : Keeping config g' := by
  induction passes with
  | start => exact h
  | quiet _ step ih => exact ih.idle (idles_quiet step)
  | turn _ live _ ih => exact ih.turn live _

theorem Keeping.course {config : Config} {g g' : Gateway} {ts : List Turn}
    (h : Keeping config g) (course : g.Course ts g') : Keeping config g' := by
  induction course with
  | start => exact h
  | passes _ onward ih => exact ih.passes onward
  | mail _ mail ih => exact ih.idle (idles_inHall rfl rfl le_rfl)

/-- The id was given out, and its session, as long as there is one, was last heard from then. -/
structure HeardAt (g : Gateway) (id last : Nat) : Prop where
  given : id < g.hall.court.roster.nextId
  past : last ≤ g.hall.clock
  heard : ∀ session, g.sessions.find? id = some session → session.client.lastKeepalive = last

namespace HeardAt

variable {config : Config} {g g' : Gateway} {id last : Nat} (h : g.HeardAt id last)
include h

theorem idle (idles : g.Idles g') : g'.HeardAt id last where
  given := h.given.trans_le idles.nextId
  past := h.past.trans idles.clock
  heard session live := by
    rcases idles.session id session live with ⟨before, found, client⟩ | ⟨new, -⟩
    · rw [client, h.heard before found]
    · exact absurd new (Nat.ne_of_lt h.given)

theorem turn (keeping : Keeping config g) {i : Nat} {session : Session}
    (live : g.sessions.find? i = some session) (p : Wire.Packet) :
    (g.afterTurn i session p).HeardAt id (lastCheck id last [((g.visit session).scene, p)]) := by
  have named : (g.visit session).scene.client.id = i := keeping.named i session live
  have timed := keeping.punctual (g.visit session).scene p
  rw [lastCheck_singleton, named]
  refine ⟨h.given.trans_le timed.nextId, ?_, fun other found => ?_⟩
  · split
    · exact timed.clock
    · exact h.past.trans timed.clock
  rw [afterTurn, find?_after] at found
  split at found
  next same =>
    cases found
    subst same
    refine timed.last.trans ?_
    rw [Scene.heardAfter, ← h.heard session live]
    simp only [true_and]
    rfl
  next apart =>
    rw [if_neg fun own => apart own.1.symm]
    exact h.heard other found

theorem passes (keeping : Keeping config g) {ts : List Turn} (passes : g.Passes ts g') :
    g'.HeardAt id (lastCheck id last ts) := by
  induction passes with
  | start => exact h
  | quiet _ step ih => exact ih.idle (idles_quiet step)
  | turn before live _ ih =>
    rw [lastCheck_append]
    exact ih.turn (keeping.passes before) live _

theorem course (keeping : Keeping config g) {ts : List Turn} (course : g.Course ts g') :
    g'.HeardAt id (lastCheck id last ts) := by
  induction course with
  | start => exact h
  | passes before onward ih =>
    rw [lastCheck_append]
    exact ih.passes (keeping.course before) onward
  | mail _ mail ih => exact ih.idle (idles_inHall rfl rfl le_rfl)

end HeardAt

theorem heardAt_arrive {g g' : Gateway} {transport : Transport} {now id : Nat}
    (arrived : g.arrive transport now = (.ok id, g')) : g'.HeardAt id g.hall.clock := by
  unfold arrive at arrived
  cases opened : g.hall.openSession transport now with
  | error refusal =>
    rw [opened] at arrived
    cases arrived
  | ok v =>
    obtain ⟨-, -, roster, -, -, client⟩ := Hall.openSession_ok opened
    rw [opened] at arrived
    cases arrived
    refine ⟨?_, (Hall.clock_openSession opened).ge, fun session found => ?_⟩
    · rw [client, roster]
      exact Nat.lt_succ_self _
    · rw [Table.find?_insert, if_pos rfl] at found
      cases found
      rw [client]

/-- A session that was opened is left alone by all events but those of its own client. -/
theorem find?_sessions_step {g : Gateway} {id : Nat} (given : id < g.hall.court.roster.nextId)
    {event : Event} (silent : ∀ readings chunk, event ≠ .send id readings chunk)
    (stays : event ≠ .depart id) : (g.step event).sessions.find? id = g.sessions.find? id := by
  cases event with
  | collect i => rfl
  | wait milliseconds => rfl
  | arrive transport now =>
    rw [step, arrive]
    cases opened : g.hall.openSession transport now with
    | error refusal => rfl
    | ok v =>
      obtain ⟨-, -, -, -, -, client⟩ := Hall.openSession_ok opened
      refine (Table.find?_insert _ _ _ _).trans (if_neg ?_)
      rw [client]
      exact Nat.ne_of_lt given
  | send i readings chunk =>
    have apart : id ≠ i := fun same => silent readings chunk (by rw [same])
    rw [step, send]
    cases g.sessions.find? i with
    | none => rfl
    | some session => exact (Table.find?_insert _ _ _ _).trans (if_neg apart)
  | depart i =>
    have apart : id ≠ i := fun same => stays (by rw [same])
    rw [step, depart]
    cases g.sessions.find? i with
    | none => rfl
    | some session => exact (Table.find?_erase _ _ _).trans (if_neg apart)

/-- Whatever a gateway was extended with, as long as checks are left to the built-in handler: at
every point of every course a session has expired exactly if the timeout has gone by since the last
check of its client had its turn, or since its arrival. A message moves this instant, to the
present, exactly if it is a check that is not dropped, and no event of others does. -/
theorem keepalive_follows_checks {further : List (List String × Handler)}
    (others : ∀ entry ∈ further, "CH" ∉ entry.1 ∧ entry.2.Inattentive) {config : Config}
    {g g₀ g₁ g₂ : Gateway} (opened : Gateway.ofConfig (.extended further) config = .ok g)
    {earlier ts : List Turn} (before : g.Course earlier g₀) {transport : Transport} {now id : Nat}
    (arrived : g₀.arrive transport now = (.ok id, g₁)) (course : g₁.Course ts g₂)
    {session : Session} (live : g₂.sessions.find? id = some session) :
    let last := lastCheck id g₀.hall.clock ts
    (g₂.hall.keepaliveExpired session.client ↔
      last + config.server.keepaliveTimeout ≤ g₂.hall.clock) ∧
    (∀ now message,
      ((g₂.visit session).handle g₂.handlers now message).2.session.client.lastKeepalive =
        if ∃ p, (g₂.visit session).packet? now message = some p ∧ p.command = "CH" then
          g₂.hall.clock
        else last) ∧
    ∀ event, (∀ readings chunk, event ≠ .send id readings chunk) → event ≠ .depart id →
      (g₂.step event).sessions.find? id = some session := by
  obtain ⟨-, rfl⟩ := ofConfig_ok opened
  have start : Keeping config { handlers := .extended further, hall := { config } } :=
    ⟨Handlers.punctual_extended others, rfl, nofun⟩
  have keeping₁ : Keeping config g₁ := by
    have idles := g₀.idles_arrive transport now
    rw [arrived] at idles
    exact (start.course before).idle idles
  have keeping := keeping₁.course course
  have heard := (heardAt_arrive arrived).course keeping₁ course
  have own := heard.heard session live
  refine ⟨?_, fun now message => ?_, fun event silent stays => ?_⟩
  · have past := heard.past
    rw [Hall.keepaliveExpired, own, keeping.config_eq, decide_eq_true_iff]
    omega
  · rw [keeping.punctual.heard_handle, own]
  · rw [find?_sessions_step heard.given silent stays, live]

theorem inattentive_faulty : faulty.Inattentive := by
  intro s p
  have kept : (faulty s p).scene = s := by
    unfold faulty
    repeat' split
    all_goals rfl
  rw [kept]
  exact ⟨rfl, rfl, le_rfl, le_rfl, rfl⟩

/-- No more than six messages are let through. -/
def sparing : Config := { courthouse with flood := { rate := 1, burst := 6 } }

/-- The gateway of `sparing`, extended with `faulty`, before anyone arrives. -/
def ward : Gateway := { handlers := .extended faultyCommands, hall := { config := sparing } }

/-- A client has entered an area, and half a second later another one arrives. -/
def lounge : Gateway := ward.run [.arrive .ws 0, feeds 0 "RD#%", .wait 500]

/-- The other client begins to play in the same area. -/
def debut : List Event := [feeds 1 "CC#1#0#%RD#%"]

/-- There is no room for what the first client should be told. -/
def crammed : Gateway :=
  let g := (lounge.arrive .tcp 0).2.run debut
  g.withMail (g.hall.court.mail.insert 0 { capacity := 0 })

/-- The player's check comes after a message that has to wait, and after it come a refusal, an
unknown command, a check that is dropped, a check of the first client, and one more that is
dropped. -/
def vigil : List Event :=
  [.wait 1000,
    feeds 1 "MS#1#-#Nick#point#Hi.#wit#0#0#0#0#0#0#0#0#0#%CH#%DENY#%NO#%CH#%",
    .wait 179999, feeds 0 "CH#%", feeds 1 "CH#%"]

/-- The check counts from when the message had waited, and a millisecond decides. -/
theorem keepalive_follows_checks_vigil :
    Gateway.ofConfig (.extended faultyCommands) sparing = .ok ward ∧
      (∀ entry ∈ faultyCommands, "CH" ∉ entry.1 ∧ entry.2.Inattentive) ∧
      (∃ g₁, lounge.arrive .tcp 0 = (.ok 1, g₁)) ∧
      ∃ session, (crammed.run vigil).sessions.find? 1 = some session ∧
        ¬ (crammed.run vigil).hall.keepaliveExpired session.client ∧
        ((crammed.run vigil).wait 1).hall.keepaliveExpired session.client := by
  have opened : Gateway.ofConfig (.extended faultyCommands) sparing = .ok ward := rfl
  have others : ∀ entry ∈ faultyCommands, "CH" ∉ entry.1 ∧ entry.2.Inattentive :=
    List.forall_mem_singleton.2 ⟨by decide, inattentive_faulty⟩
  have before : ward.Course (ward.turns [.arrive .ws 0, feeds 0 "RD#%", .wait 500]) lounge :=
    ward.course_run _
  have admitted : (lounge.arrive .tcp 0).1 = .ok 1 := by decide +kernel
  have arrived : lounge.arrive .tcp 0 = (.ok 1, (lounge.arrive .tcp 0).2) := Prod.ext admitted rfl
  have entered : (lounge.arrive .tcp 0).2.Course _ crammed :=
    .mail ((lounge.arrive .tcp 0).2.course_run debut) _
  have watched := entered.passes (crammed.passes_run vigil)
  have there : ((crammed.run vigil).sessions.find? 1).isSome := by decide +kernel
  obtain ⟨session, live⟩ := Option.isSome_iff_exists.1 there
  have waited : (crammed.run vigil).Passes [] ((crammed.run vigil).wait 1) :=
    .quiet .start (.wait 1)
  have kept (g : Gateway) : (g.wait 1).sessions = g.sessions := rfl
  have still : ((crammed.run vigil).wait 1).sessions.find? 1 = some session := by rwa [kept]
  have now := (keepalive_follows_checks others opened before arrived watched live).1
  have later :=
    (keepalive_follows_checks others opened before arrived (watched.passes waited) still).1
  refine ⟨opened, others, ⟨_, arrived⟩, session, live, ?_, ?_⟩
  · rw [now]
    decide +kernel
  · rw [later]
    decide +kernel

end Gateway
end CourtroomGateway
