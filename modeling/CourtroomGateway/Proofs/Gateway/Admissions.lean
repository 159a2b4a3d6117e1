import CourtroomGateway.Proofs.Commands.Tallies
import CourtroomGateway.Proofs.Gateway.Agreement
import CourtroomGateway.Proofs.Gateway.Survival
import Mathlib.Algebra.Ring.Nat

/-! Who was let in, and who is still there. Ids are given out in the order of the admissions, the
server never holds more clients than it is configured for, and the metrics count for each transport
the admissions and the sessions that are left of them. -/

namespace CourtroomGateway

namespace Visit

/-- Nothing of what the coming and going of sessions decides or counts is different. -/
structure Stays (v w : Visit) : Prop where
  config : w.hall.config = v.hall.config
  nextId : w.hall.court.roster.nextId = v.hall.court.roster.nextId
  transport : w.session.client.transport = v.session.client.transport
  connections : w.hall.metrics.connections = v.hall.metrics.connections
  activeSessions : w.hall.metrics.activeSessions = v.hall.metrics.activeSessions

theorem stays_framed (v : Visit) (chunk : List UInt8) : v.Stays (v.framed chunk) := by
  unfold framed
  split <;> exact ⟨rfl, rfl, rfl, rfl, rfl⟩

theorem Stays.turn {v w : Visit} (h : v.Stays w) (now : Nat) (p : Wire.Packet) :
    v.Stays ((w.charged now).withScene (Handlers.builtin.dispatch w.scene p).scene) where
  config := (w.scene.turned_dispatch p).spares.config.trans h.config
  nextId := (w.scene.turned_dispatch p).spares.nextId.trans h.nextId
  transport := (w.scene.turned_dispatch p).spares.transport.trans h.transport
  connections := (w.scene.outlasts_dispatch p).connections.trans h.connections
  activeSessions := (w.scene.outlasts_dispatch p).activeSessions.trans h.activeSessions

theorem Stays.carried {v u w : Visit} {messages : List (Nat × String)} (h : v.Stays u)
    (carried : u.Carried .builtin messages w) : v.Stays w :=
  carried.keeps (v.Stays ·)
    (fun _ _ h => ⟨h.config, h.nextId, h.transport, h.connections, h.activeSessions⟩)
    (fun now _ p h => h.turn now p) h

end Visit

namespace Hall
variable (h : Hall) (transport other : Transport)

theorem connections_recordOpening :
    (h.recordOpening transport).metrics.connections.get [other.label] =
      h.metrics.connections.get [other.label] + if transport = other then 1 else 0 := by
  rw [recordOpening, Metrics.Counter.inc, Metrics.Counter.get_add]
  by_cases same : transport = other
  · simp [same]
  · simp [Transport.key_label_iff, same, Ne.symm same]

theorem active_recordOpening :
    (h.recordOpening transport).metrics.activeSessions.get [other.label] =
      h.metrics.activeSessions.get [other.label] + if transport = other then 1 else 0 := by
  rw [recordOpening, Metrics.Gauge.inc, Metrics.Gauge.get_add]
  by_cases same : transport = other
  · simp [same]
  · simp [Transport.key_label_iff, same, Ne.symm same]

theorem active_recordClosing :
    (h.recordClosing transport).metrics.activeSessions.get [other.label] =
      h.metrics.activeSessions.get [other.label] + if transport = other then -1 else 0 := by
  rw [recordClosing, Metrics.Gauge.dec, Metrics.Gauge.get_add]
  by_cases same : transport = other
  · simp [same]
  · simp [Transport.key_label_iff, same, Ne.symm same]

end Hall

namespace Gateway

/-- The client that an event lets in, and its transport. -/
def admissionsOf (g : Gateway) : Event → List (Nat × Transport)
  | .arrive transport now =>
    match (g.arrive transport now).1 with
    | .ok id => [(id, transport)]
    | .error _ => []
  | _ => []

/-- The number of live sessions over a transport. -/
def liveOver (g : Gateway) (transport : Transport) : Nat :=
  g.sessions.entries.countP fun e => e.2.client.transport = transport

/-- What is held of the sessions agrees with the list of the clients that were let in. -/
structure Admitted (g : Gateway) (admissions : List (Nat × Transport)) : Prop where
  capped : g.sessions.size ≤ g.hall.config.server.maxPlayers
  ids : admissions.map (·.1) = List.range admissions.length
  next : g.hall.court.roster.nextId = admissions.length
  live : ∀ id session, g.sessions.find? id = some session →
    (id, session.client.transport) ∈ admissions
  connections : ∀ transport : Transport, g.hall.metrics.connections.get [transport.label] =
    UInt64.ofNat (admissions.countP fun e => e.2 = transport)
  active : ∀ transport : Transport, g.hall.metrics.activeSessions.get [transport.label] =
    Int64.ofNat (g.liveOver transport)

theorem Coherent.find?_nextId {g : Gateway} (h : g.Coherent) :
    g.sessions.find? g.hall.court.roster.nextId = none := by
  rw [← Option.not_isSome_iff_eq_none]
  intro seated
  exact Nat.lt_irrefl _ (h.fresh _ ((h.seated _).trans seated))

theorem liveOver_of_perm {g : Gateway} {id : Nat} {session : Session}
    {others : List (Nat × Session)}
    (entries : g.sessions.entries.Perm ((id, session) :: others)) (transport : Transport) :
    g.liveOver transport = others.countP (fun e => e.2.client.transport = transport) +
      if session.client.transport = transport then 1 else 0 := by
  rw [liveOver, entries.countP_eq, List.countP_cons]
  simp

namespace Admitted
variable {g : Gateway} {admissions : List (Nat × Transport)} (h : g.Admitted admissions)
include h

theorem after {id : Nat} {session : Session} (found : g.sessions.find? id = some session)
    {v : Visit} (stays : (g.visit session).Stays v) : (g.after id v).Admitted admissions := by
  have before := Table.perm_entries found
  have after : (g.after id v).sessions.entries.Perm ((id, v.session) :: _) :=
    g.sessions.perm_entries_insert id v.session
  constructor
  · have size := before.length_eq.trans after.length_eq.symm
    have capped := h.capped
    rw [Table.size, size] at capped
    exact stays.config ▸ capped
  · exact h.ids
  · exact stays.nextId.trans h.next
  · intro i other there
    rw [find?_after] at there
    split at there
    next same =>
      cases there
      rw [same, stays.transport]
      exact h.live id session found
    next => exact h.live i other there
  · exact fun transport => stays.connections ▸ h.connections transport
  · intro transport
    have count : (g.after id v).liveOver transport = g.liveOver transport := by
      rw [liveOver_of_perm after, liveOver_of_perm before, stays.transport]
    rw [count]
    exact stays.activeSessions ▸ h.active transport

theorem arrive (coherent : g.Coherent) (transport : Transport) (now : Nat) :
    (g.arrive transport now).2.Admitted
      (admissions ++ g.admissionsOf (.arrive transport now)) := by
  rw [admissionsOf]
  unfold Gateway.arrive
  cases opened : g.hall.openSession transport now with
  | error refusal =>
    rw [List.append_nil]
    exact h
  | ok v =>
    obtain ⟨room, config, roster, -, -, client⟩ := Hall.openSession_ok opened
    have counted := Hall.metrics_openSession opened
    have id : v.session.client.id = admissions.length := by rw [client, ← h.next]
    -- Nobody has the next id, so the new session stands beside all that were there.
    have entries : (g.sessions.insert admissions.length v.session).entries.Perm
        ((admissions.length, v.session) :: g.sessions.entries) := by
      have whole := g.sessions.perm_entries_insert g.hall.court.roster.nextId v.session
      rwa [Table.erase_of_missing coherent.find?_nextId, h.next] at whole
    simp only [id]
    constructor
    · rw [coherent.players_eq_size] at room
      rw [Table.size, entries.length_eq, config]
      exact room
    · rw [List.map_append, h.ids, List.length_append, List.map_singleton, List.length_singleton,
        List.range_succ]
    · rw [roster, List.length_append, List.length_singleton, ← h.next]
      rfl
    · intro i other there
      rw [Table.find?_insert] at there
      split at there
      next same =>
        cases there
        rw [same, client]
        exact List.mem_concat_self
      next => exact List.mem_append_left _ (h.live i other there)
    · intro other
      rw [counted, Hall.connections_recordOpening, h.connections, List.countP_append,
        List.countP_singleton, UInt64.ofNat_add]
      by_cases same : transport = other <;> simp [same]
    · intro other
      have live := liveOver_of_perm (g := { g with
        hall := v.hall
        sessions := g.sessions.insert admissions.length v.session }) entries other
      rw [counted, Hall.active_recordOpening, h.active, live, client, Int64.ofNat_add]
      by_cases same : transport = other <;> simp [same, liveOver]

theorem depart (id : Nat) : (g.depart id).Admitted admissions := by
  unfold Gateway.depart
  cases found : g.sessions.find? id with
  | none => exact h
  | some session =>
    have before := Table.perm_entries found
    constructor
    · have size := before.length_eq
      have capped := h.capped
      rw [List.length_cons] at size
      simp only [Table.size] at capped ⊢
      exact Nat.le_trans (by omega) capped
    · exact h.ids
    · exact h.next
    · intro i other there
      rw [Table.find?_erase] at there
      split at there
      · cases there
      · exact h.live i other there
    · exact h.connections
    · intro other
      have active := h.active other
      rw [liveOver_of_perm before, Int64.ofNat_add] at active
      refine (g.hall.active_recordClosing session.client.transport other).trans ?_
      rw [active, Int64.add_assoc, liveOver]
      by_cases same : session.client.transport = other
      · rw [if_pos same, if_pos same]
        exact Int64.add_zero _
      · rw [if_neg same, if_neg same]
        exact Int64.add_zero _

end Admitted

theorem admitted_empty {config : Config} {g : Gateway}
    (opened : Gateway.ofConfig .builtin config = .ok g) : g.Admitted [] := by
  obtain ⟨-, rfl⟩ := ofConfig_ok opened
  exact
    { capped := Nat.zero_le _
      ids := rfl
      next := rfl
      live := nofun
      connections := fun _ => rfl
      active := fun _ => rfl }

theorem admitted_step {config : Config} {g : Gateway} (reached : Reached config g)
    {admissions : List (Nat × Transport)} (h : g.Admitted admissions) (event : Event) :
    (g.step event).Admitted (admissions ++ g.admissionsOf event) := by
  cases event with
  | arrive transport now => exact h.arrive reached.sound.1 transport now
  | send id readings chunk =>
    change (g.send id readings chunk).2.Admitted (admissions ++ [])
    rw [List.append_nil]
    cases found : g.sessions.find? id with
    | none =>
      simp only [send, found]
      exact h
    | some session =>
      obtain ⟨w, carried, sent⟩ := carried_send reached found readings chunk
      rw [sent]
      exact h.after found (((g.visit session).stays_framed chunk).carried carried)
  | collect id =>
    change (g.collect id).2.Admitted (admissions ++ [])
    rw [List.append_nil]
    exact { h with }
  | depart id =>
    change (g.depart id).Admitted (admissions ++ [])
    rw [List.append_nil]
    exact h.depart id
  | wait milliseconds =>
    change (g.wait milliseconds).Admitted (admissions ++ [])
    rw [List.append_nil]
    exact { h with }

theorem admitted_run {config : Config} {g : Gateway}
    (opened : Gateway.ofConfig .builtin config = .ok g) (events : List Event) :
    (g.run events).Admitted (g.record admissionsOf events) :=
  reached_induction Admitted opened (admitted_empty opened)
    (fun _ _ event reached admitted => admitted_step reached admitted event) events

theorem arrive_of_full {g : Gateway} (full : g.hall.config.server.maxPlayers ≤ g.hall.players)
    (transport : Transport) (now : Nat) :
    g.arrive transport now = (.error .serverFull, g) := by
  have refused : g.hall.openSession transport now = .error .serverFull := if_pos full
  rw [arrive, refused]

theorem arrive_of_room {g : Gateway} (room : g.hall.players < g.hall.config.server.maxPlayers)
    (transport : Transport) (now : Nat) :
    (g.arrive transport now).1 = .ok g.hall.court.roster.nextId := by
  unfold arrive Hall.openSession
  dsimp only
  rw [if_neg (Nat.not_le.2 room)]
  rfl

theorem size_eq_live (g : Gateway) : g.sessions.size = g.liveOver .tcp + g.liveOver .ws := by
  have either := List.length_eq_countP_add_countP
    (fun e : Nat × Session => decide (e.2.client.transport = .tcp)) (l := g.sessions.entries)
  refine either.trans (congrArg _ (List.countP_congr fun e _ => ?_))
  cases e.2.client.transport <;> decide

/-- In every run under an accepted configuration: there are never more clients than the server may
hold; who arrives is refused exactly if there are as many, with a fault that says so, and then
nothing changes; the ids are given out in order, to one client each; the metrics count the
admissions and the live sessions of each transport; and the number of clients that they show is the
sum of the live sessions. -/
theorem sessions_accounted {config : Config} {g : Gateway}
    (opened : Gateway.ofConfig .builtin config = .ok g) (events : List Event) :
    let g' := g.run events
    let active (transport : Transport) : Int64 :=
      g'.hall.metrics.activeSessions.get [transport.label]
    g'.hall.players = g'.sessions.size ∧ g'.hall.players ≤ config.server.maxPlayers ∧
      (∀ transport now,
        ((∃ refusal, (g'.arrive transport now).1 = .error refusal) ↔
          g'.sessions.size = config.server.maxPlayers) ∧
        ∀ refusal, (g'.arrive transport now).1 = .error refusal →
          refusal.toFault = .notAllowed "server full" ∧ (g'.arrive transport now).2 = g') ∧
      g'.Admitted (g.record admissionsOf events) ∧
      ∃ players, g'.hall.samples.head? = some ("aoprism_players", players) ∧
        Int64.ofNat players = active .tcp + active .ws ∧
        (players < 2 ^ 63 → (players : Int) = (active .tcp).toInt + (active .ws).toInt) := by
  intro g' active
  have admitted : g'.Admitted (g.record admissionsOf events) := admitted_run opened events
  have reached : Reached config g' := reached_run opened events
  obtain ⟨config_eq, -⟩ := reached.config_eq
  have coherent : g'.Coherent := reached.sound.1
  have players : g'.hall.players = g'.sessions.size := coherent.players_eq_size
  have capped : g'.hall.players ≤ config.server.maxPlayers := by
    rw [players, ← config_eq]
    exact admitted.capped
  refine ⟨players, capped, fun transport now => ?_, admitted, g'.sessions.size, ?_, ?_, ?_⟩
  · by_cases room : g'.hall.players < g'.hall.config.server.maxPlayers
    · have seated := arrive_of_room room transport now
      rw [players, config_eq] at room
      simp only [seated]
      exact ⟨⟨nofun, fun full => absurd full (Nat.ne_of_lt room)⟩, nofun⟩
    · have refused := arrive_of_full (Nat.not_lt.1 room) transport now
      rw [config_eq] at room
      have full : g'.sessions.size = config.server.maxPlayers := by omega
      rw [refused]
      refine ⟨⟨fun _ => full, fun _ => ⟨_, rfl⟩⟩, ?_⟩
      rintro refusal ⟨⟩
      exact ⟨rfl, rfl⟩
  · rw [coherent.inAccord.counted]
    rfl
  · simp only [active, admitted.active, ← Int64.ofNat_add, ← size_eq_live]
  · intro small
    rw [size_eq_live] at small ⊢
    simp only [active, admitted.active]
    rw [Int64.toInt_ofNat_of_lt (by omega), Int64.toInt_ofNat_of_lt (by omega)]
    rfl

/-- A configuration with room for two clients. -/
def cramped : Config := { courthouse with server := { maxPlayers := 2 } }

/-- A third client comes, and comes again when the first one has left. -/
def turnstile : List Event :=
  [.arrive .tcp 0, .arrive .ws 0, .arrive .ws 0, feeds 0 "CC#0#0#%RD#%", .depart 0, .depart 2,
    .arrive .ws 0]

theorem sessions_accounted_turnstile :
    Gateway.ofConfig .builtin cramped = .ok (unvisited cramped) ∧
      (unvisited cramped).record admissionsOf turnstile = [(0, .tcp), (1, .ws), (2, .ws)] ∧
      let g := (unvisited cramped).run turnstile
      g.hall.players = 2 ∧ (g.arrive .tcp 0).2 = g ∧
        g.hall.metrics.connections.get [Transport.ws.label] = 2 ∧
        g.hall.metrics.activeSessions.get [Transport.ws.label] = 2 ∧
        g.hall.metrics.activeSessions.get [Transport.tcp.label] = 0 := by
  have opened : Gateway.ofConfig .builtin cramped = .ok (unvisited cramped) :=
    ofConfig_of_clean (by decide)
  have admissions : (unvisited cramped).record admissionsOf turnstile =
      [(0, .tcp), (1, .ws), (2, .ws)] := by
    decide +kernel
  have full : ((unvisited cramped).run turnstile).sessions.size = 2 := by decide +kernel
  obtain ⟨players, -, refuses, admitted, -⟩ := sessions_accounted opened turnstile
  obtain ⟨refused, unchanged⟩ := refuses .tcp 0
  obtain ⟨refusal, why⟩ := refused.2 full
  rw [admissions] at admitted
  refine ⟨opened, admissions, players.trans full, (unchanged refusal why).2,
    admitted.connections .ws, ?_, ?_⟩
  · exact (admitted.active .ws).trans (by decide +kernel)
  · exact (admitted.active .tcp).trans (by decide +kernel)

end Gateway
end CourtroomGateway
