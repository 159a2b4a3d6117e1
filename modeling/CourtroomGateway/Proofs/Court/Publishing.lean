import CourtroomGateway.Court.Sending
import CourtroomGateway.Proofs.Court.Delivery
import Mathlib.Logic.Relation
import Mathlib.Tactic.Tauto

/-! The two ways to publish. A lossy delivery offers the wire to one client after the other. A
reliable one begins all its sends together, and they go on side by side in an order that nobody
knows, until each has found room, has met a mailbox without a listener or has waited for as long as
it may. While nothing is taken out of a mailbox, both leave the same court behind, whatever the
order; only a send without a limit can wait for a full mailbox without end. -/

namespace CourtroomGateway.Court

namespace Sending

abbrev Leads (wire : String) (timeout : Nat) : Sending → Sending → Prop :=
  Relation.ReflTransGen (Next wire timeout)

/-- Whatever has happened so far, all sends can come to an end, and every end leaves this court. -/
structure Completes (s : Sending) (wire : String) (timeout : Nat) (c : Court) : Prop where
  ends : ∀ t, Leads wire timeout s t → ∃ u, Leads wire timeout t u ∧ u.pending = []
  leaves : ∀ t, Leads wire timeout s t → t.pending = [] → t.court = c

def NeverCompletes (s : Sending) (wire : String) (timeout : Nat) : Prop :=
  ∀ t, Leads wire timeout s t → t.pending ≠ []

end Sending

/-- A client other than the origin listens to a mailbox that is full. -/
def Blocked (c : Court) (area : Nat) (origin : Option Nat) : Prop :=
  ∃ id ∈ c.recipients area, origin ≠ some id ∧ c.room id = .full

/-- The wire was put once at the end of the mailbox of every connected client of the area that
listens and has room, and nothing else was changed. -/
structure Served (c c' : Court) (area : Nat) (wire : String) : Prop where
  roster : c'.roster = c.roster
  presence : c'.presence = c.presence
  boxes : ∀ i, c'.mail.contains i = c.mail.contains i
  queued : ∀ i m, c.mail.find? i = some m → ∃ m', c'.mail.find? i = some m' ∧
    m'.capacity = m.capacity ∧ m'.listening = m.listening ∧
    m'.waiting =
      if i ∈ c.presence.clientsIn area ∧ c.roster.contains i ∧ m.listening ∧
          m.waiting.length < m.capacity then m.waiting ++ [wire]
      else m.waiting

theorem Mailbox.room_eq_free_iff {m : Mailbox} :
    m.room = .free ↔ m.listening ∧ m.waiting.length < m.capacity := by
  unfold room
  split
  next listens => simp [listens]
  next deaf => simp [deaf]

theorem find?_mail_publishLossy (c : Court) (area : Nat) (wire : String) (i : Nat) :
    (c.publishLossy area wire).mail.find? i =
      (c.mail.find? i).map fun m => if i ∈ c.recipients area then m.offer wire else m :=
  find?_mail_postAll (c.nodup_recipients area) c wire i

theorem served_publishLossy (c : Court) (area : Nat) (wire : String) :
    c.Served (c.publishLossy area wire) area wire where
  roster := c.roster_postAll _ wire
  presence := c.presence_postAll _ wire
  boxes i := by rw [Table.contains, find?_mail_publishLossy, Option.isSome_map, Table.contains]
  queued i m found := by
    refine ⟨_, by rw [find?_mail_publishLossy, found, Option.map_some], ?_⟩
    by_cases named : i ∈ c.recipients area
    · obtain ⟨there, known⟩ := List.mem_filter.1 named
      simp [named, there, known, Mailbox.waiting_offer, Mailbox.room_eq_free_iff]
    · have absent : ¬ (i ∈ c.presence.clientsIn area ∧ c.roster.contains i ∧ m.listening ∧
          m.waiting.length < m.capacity) := by
        rintro ⟨there, known, -⟩
        exact named (List.mem_filter.2 ⟨there, known⟩)
      simp [named, absent]

/-- While sends go on, those who were served were offered the wire and all others were not. -/
structure Underway (c : Court) (area : Nat) (wire : String) (origin : Option Nat) (s : Sending) :
    Prop where
  roster : s.court.roster = c.roster
  presence : s.court.presence = c.presence
  awaited : ∀ id ∈ s.pending, id ∈ c.recipients area ∧ origin ≠ some id
  unique : s.pending.Nodup
  mail : ∀ i, s.court.mail.find? i =
    (c.mail.find? i).map fun m => if i ∈ c.recipients area ∧ i ∉ s.pending then m.offer wire else m

theorem underway_beginSending (c : Court) (area : Nat) (wire : String) (origin : Option Nat) :
    c.Underway area wire origin (c.beginSending area wire origin) where
  roster := c.roster_postAll _ wire
  presence := c.presence_postAll _ wire
  awaited id waits := by simpa [beginSending] using waits
  unique := (c.nodup_recipients area).filter _
  mail i := by
    have served : i ∈ (c.recipients area).filter (origin = some ·) ↔
        i ∈ c.recipients area ∧ i ∉ (c.recipients area).filter (origin ≠ some ·) := by
      by_cases own : origin = some i <;> simp [own]
    refine (find?_mail_postAll ((c.nodup_recipients area).filter _) c wire i).trans ?_
    simp only [served]
    rfl

namespace Underway
variable {c : Court} {area : Nat} {wire : String} {origin : Option Nat} {s t : Sending}

theorem room (h : c.Underway area wire origin s) {id : Nat} (waits : id ∈ s.pending) :
    s.court.room id = c.room id := by
  unfold Court.room
  rw [h.mail]
  cases c.mail.find? id with
  | none => rfl
  | some m => simp [waits]

/-- Whether or not the wire is taken, one send less is going on. -/
theorem serve (h : c.Underway area wire origin s) {id : Nat} (waits : id ∈ s.pending)
    (elapsed : Nat) :
    c.Underway area wire origin ⟨s.court.post id wire, s.pending.erase id, elapsed⟩ where
  roster := h.roster
  presence := h.presence
  awaited i later := h.awaited i (List.mem_of_mem_erase later)
  unique := h.unique.erase id
  mail i := by
    have left : i ∈ s.pending.erase id ↔ i ≠ id ∧ i ∈ s.pending := h.unique.mem_erase_iff
    rw [find?_mail_post, h.mail]
    simp only [left]
    by_cases same : i = id
    · subst same
      simp [waits, (h.awaited i waits).1]
    · simp [same]

theorem next (h : c.Underway area wire origin s) {timeout : Nat} (step : s.Next wire timeout t) :
    c.Underway area wire origin t := by
  -- Who is passed over keeps the mailbox as if the wire had been offered.
  have passed {id : Nat} (waits : id ∈ s.pending) (full : s.court.room id ≠ .free) :
      c.Underway area wire origin { s with pending := s.pending.erase id } := by
    have served := h.serve waits s.elapsed
    rwa [post_of_not_free full] at served
  cases step with
  | sent waits free => exact h.serve waits s.elapsed
  | failed waits closed => exact passed waits (by rw [closed]; nofun)
  | expired waits full limited late => exact passed waits (by rw [full]; nofun)
  | waited milliseconds => exact ⟨h.roster, h.presence, h.awaited, h.unique, h.mail⟩

theorem leads (h : c.Underway area wire origin s) {timeout : Nat}
    (leads : Sending.Leads wire timeout s t) : c.Underway area wire origin t := by
  induction leads with
  | refl => exact h
  | tail _ step ih => exact ih.next step

theorem court_eq (h : c.Underway area wire origin s) (done : s.pending = []) :
    s.court = c.publishLossy area wire := by
  refine eq_of_parts ?_ ?_ (Table.ext_find? fun i => ?_)
  · exact h.roster.trans (c.roster_postAll _ wire).symm
  · exact h.presence.trans (c.presence_postAll _ wire).symm
  · rw [h.mail, find?_mail_publishLossy]
    simp [done]

/-- When the time is over every send can end, or there is none that waits for room. -/
theorem exists_ends {timeout : Nat}
    (limited : 0 < timeout ∧ timeout ≤ s.elapsed ∨ ¬ c.Blocked area origin)
    (h : c.Underway area wire origin s) :
    ∃ u, Sending.Leads wire timeout s u ∧ u.pending = [] ∧ u.elapsed = s.elapsed := by
  obtain ⟨court, pending, elapsed⟩ := s
  induction pending generalizing court with
  | nil => exact ⟨_, .refl, rfl, rfl⟩
  | cons id rest ih =>
    have first : id ∈ id :: rest := List.mem_cons_self
    obtain ⟨t, step, left, later⟩ : ∃ t, Sending.Next wire timeout ⟨court, id :: rest, elapsed⟩ t ∧
        t.pending = rest ∧ t.elapsed = elapsed := by
      cases room : court.room id with
      | free => exact ⟨_, .sent first room, List.erase_cons_head _ _, rfl⟩
      | closed => exact ⟨_, .failed first room, List.erase_cons_head _ _, rfl⟩
      | full =>
        rcases limited with ⟨some, late⟩ | unblocked
        · exact ⟨_, .expired first room some late, List.erase_cons_head _ _, rfl⟩
        · obtain ⟨named, other⟩ := h.awaited id first
          exact absurd ⟨id, named, other, (h.room first).symm.trans room⟩ unblocked
    obtain ⟨court', pending', elapsed'⟩ := t
    obtain rfl : pending' = rest := left
    obtain rfl : elapsed' = elapsed := later
    obtain ⟨u, leads, done, still⟩ := ih court' limited (h.next step)
    exact ⟨u, .head step leads, done, still⟩

/-- Without a limit, a send that meets a full mailbox goes on for ever. -/
theorem never_of_blocked {id : Nat} (h : c.Underway area wire origin s) (waits : id ∈ s.pending)
    (full : c.room id = .full) : s.NeverCompletes wire 0 := by
  have stays (t : Sending) (leads : Sending.Leads wire 0 s t) : id ∈ t.pending := by
    induction leads with
    | refl => exact waits
    | @tail u v before step ih =>
      have room := ((h.leads before).room ih).trans full
      have apart {i : Nat} (other : u.court.room i ≠ .full) : id ∈ u.pending.erase i := by
        refine (List.mem_erase_of_ne ?_).2 ih
        rintro rfl
        exact other room
      cases step with
      | sent waits free => exact apart (by rw [free]; nofun)
      | failed waits closed => exact apart (by rw [closed]; nofun)
      | expired waits full limited late => exact absurd limited (Nat.lt_irrefl 0)
      | waited milliseconds => exact ih
  exact fun t leads done => List.ne_nil_of_mem (stays t leads) done

end Underway

theorem stuck_send (d : Delivery) (wire : String) (timeout : Nat) (origin : Option Nat) (id : Nat) :
    (d.send wire timeout origin id).stuck ↔
      d.stuck ∨ timeout = 0 ∧ origin ≠ some id ∧ d.court.room id = .full := by
  unfold Delivery.send
  by_cases own : origin = some id
  · simp [own]
  · cases d.court.room id with
    | full => by_cases unlimited : timeout = 0 <;> simp [own, unlimited]
    | _ => simp [own]

/-- No send changes what room the clients after it have. -/
theorem exists_full_send {ids : List Nat} {id : Nat} (absent : id ∉ ids) (d : Delivery)
    (wire : String) (timeout : Nat) (origin : Option Nat) :
    (∃ i ∈ ids, origin ≠ some i ∧ (d.send wire timeout origin id).court.room i = .full) ↔
      ∃ i ∈ ids, origin ≠ some i ∧ d.court.room i = .full := by
  refine exists_congr fun i => and_congr_right fun listed => ?_
  have apart : i ≠ id := fun same => absent (same ▸ listed)
  rw [court_send, room_post_of_ne apart]

theorem stuck_foldl_send {ids : List Nat} (unique : ids.Nodup) (d : Delivery) (wire : String)
    (timeout : Nat) (origin : Option Nat) :
    (ids.foldl (fun d id => d.send wire timeout origin id) d).stuck ↔
      d.stuck ∨ timeout = 0 ∧ ∃ id ∈ ids, origin ≠ some id ∧ d.court.room id = .full := by
  induction ids generalizing d with
  | nil => simp
  | cons id ids ih =>
    obtain ⟨absent, unique⟩ := List.nodup_cons.1 unique
    rw [List.foldl_cons, ih unique, stuck_send, exists_full_send absent]
    simp only [List.mem_cons, exists_eq_or_imp]
    tauto

theorem waited_send {timeout : Nat} (limited : 0 < timeout) (d : Delivery) (wire : String)
    (origin : Option Nat) (id : Nat) :
    (d.send wire timeout origin id).waited =
      if origin ≠ some id ∧ d.court.room id = .full then timeout else d.waited := by
  unfold Delivery.send
  by_cases own : origin = some id
  · simp [own]
  · cases d.court.room id with
    | full => simp [own, Nat.ne_of_gt limited]
    | _ => simp [own]

theorem waited_foldl_send {timeout : Nat} (limited : 0 < timeout) {ids : List Nat}
    (unique : ids.Nodup) (d : Delivery) (wire : String) (origin : Option Nat) :
    (ids.foldl (fun d id => d.send wire timeout origin id) d).waited =
      if ∃ id ∈ ids, origin ≠ some id ∧ d.court.room id = .full then timeout else d.waited := by
  induction ids generalizing d with
  | nil => simp
  | cons id ids ih =>
    obtain ⟨absent, unique⟩ := List.nodup_cons.1 unique
    rw [List.foldl_cons, ih unique, waited_send limited]
    simp only [exists_full_send absent, List.mem_cons, exists_eq_or_imp]
    by_cases full : origin ≠ some id ∧ d.court.room id = .full <;> simp [full]

/-- A reliable delivery waits without end if it sets no limit and somebody's mailbox is full. -/
theorem stuck_publishReliable_iff (c : Court) (area : Nat) (wire : String) (timeout : Nat)
    (origin : Option Nat) :
    (c.publishReliable area wire timeout origin).stuck ↔ timeout = 0 ∧ c.Blocked area origin := by
  have sent := stuck_foldl_send (c.nodup_recipients area) { court := c } wire timeout origin
  simpa [Blocked, publishReliable] using sent

/-- With a limit, a reliable delivery takes all its time if it meets a full mailbox, and none if it
does not. -/
theorem waited_publishReliable {timeout : Nat} (limited : 0 < timeout) (c : Court) (area : Nat)
    (wire : String) (origin : Option Nat) :
    (c.Blocked area origin → (c.publishReliable area wire timeout origin).waited = timeout) ∧
      (¬ c.Blocked area origin → (c.publishReliable area wire timeout origin).waited = 0) := by
  have waited := waited_foldl_send limited (c.nodup_recipients area) { court := c } wire origin
  exact ⟨fun blocked => waited.trans (if_pos blocked), fun free => waited.trans (if_neg free)⟩

/-- Where there is a limit to the wait, a delivery keeps to it. -/
theorem not_stuck_publishReliable {timeout : Nat} (limited : 0 < timeout) (c : Court) (area : Nat)
    (wire : String) (origin : Option Nat) :
    ¬ (c.publishReliable area wire timeout origin).stuck ∧
      (c.publishReliable area wire timeout origin).waited ≤ timeout := by
  obtain ⟨all, none⟩ := waited_publishReliable limited c area wire origin
  constructor
  · rw [stuck_publishReliable_iff]
    exact fun stuck => Nat.ne_of_gt limited stuck.1
  · by_cases blocked : c.Blocked area origin
    · exact Nat.le_of_eq (all blocked)
    · exact Nat.le_trans (Nat.le_of_eq (none blocked)) (Nat.zero_le timeout)

/-- With a limit, the sends of a delivery can end so that they leave what it leaves, in the same
time. -/
theorem exists_delivered {timeout : Nat} (limited : 0 < timeout) (c : Court) (area : Nat)
    (wire : String) (origin : Option Nat) :
    ∃ t, Sending.Leads wire timeout (c.beginSending area wire origin) t ∧ t.pending = [] ∧
      t.court = (c.publishReliable area wire timeout origin).court ∧
      t.elapsed = (c.publishReliable area wire timeout origin).waited := by
  have begun := c.underway_beginSending area wire origin
  obtain ⟨all, none⟩ := waited_publishReliable limited c area wire origin
  rw [c.court_publishReliable area wire timeout origin]
  by_cases blocked : c.Blocked area origin
  · have waits : Sending.Next wire timeout (c.beginSending area wire origin)
        { c.beginSending area wire origin with elapsed := 0 + timeout } := .waited timeout
    obtain ⟨t, ends, done, elapsed⟩ :=
      (begun.next waits).exists_ends (.inl ⟨limited, Nat.le_add_left _ _⟩)
    refine ⟨t, .head waits ends, done, ((begun.next waits).leads ends).court_eq done, ?_⟩
    rw [elapsed, all blocked]
    exact Nat.zero_add timeout
  · have free : 0 < timeout ∧ timeout ≤ (c.beginSending area wire origin).elapsed ∨
        ¬ c.Blocked area origin := .inr blocked
    obtain ⟨t, ends, done, elapsed⟩ := begun.exists_ends free
    exact ⟨t, ends, done, (begun.leads ends).court_eq done, elapsed.trans (none blocked).symm⟩

/-- For every court, whoever is connected, wherever the clients are and however full their
mailboxes, a lossy delivery puts the wire once at the end of the mailbox of every connected client
of the area that listens and has room. A reliable delivery with a limit comes to an end and leaves
the same court, in whatever order its sends go on. Without a limit it does so too unless a client
other than the origin listens to a full mailbox, and then it never comes to an end. -/
theorem publishing_agrees (c : Court) (area : Nat) (wire : String) (origin : Option Nat) :
    c.Served (c.publishLossy area wire) area wire ∧
      (∀ timeout, 0 < timeout ∨ ¬ c.Blocked area origin →
        (c.publishReliable area wire timeout origin).court = c.publishLossy area wire ∧
        (c.publishReliable area wire timeout origin).stuck = false ∧
        (c.beginSending area wire origin).Completes wire timeout (c.publishLossy area wire)) ∧
      (c.Blocked area origin →
        (c.publishReliable area wire 0 origin).stuck = true ∧
        (c.beginSending area wire origin).NeverCompletes wire 0) := by
  have begun := c.underway_beginSending area wire origin
  refine ⟨c.served_publishLossy area wire, fun timeout limited => ⟨?_, ?_, ?_, ?_⟩,
    fun blocked => ⟨?_, ?_⟩⟩
  · exact c.court_publishReliable area wire timeout origin
  · rw [← Bool.not_eq_true, stuck_publishReliable_iff]
    rintro ⟨rfl, blocked⟩
    exact limited.elim (Nat.lt_irrefl 0) fun free => free blocked
  · intro t leads
    have waits : Sending.Next wire timeout t { t with elapsed := t.elapsed + timeout } :=
      .waited timeout
    have late : 0 < timeout ∧ timeout ≤ t.elapsed + timeout ∨ ¬ c.Blocked area origin :=
      limited.imp_left fun some => ⟨some, Nat.le_add_left _ _⟩
    obtain ⟨u, ends, done, -⟩ := ((begun.leads leads).next waits).exists_ends late
    exact ⟨u, .head waits ends, done⟩
  · exact fun t leads done => (begun.leads leads).court_eq done
  · exact (c.stuck_publishReliable_iff area wire 0 origin).2 ⟨rfl, blocked⟩
  · obtain ⟨id, named, other, full⟩ := blocked
    refine begun.never_of_blocked (List.mem_filter.2 ⟨named, ?_⟩) full
    simpa using other

/-- Six clients are connected. The first has room, the second does not, nobody listens to the
mailbox of the third, the fifth is in another area and the last has left the roster. -/
def crowded : Court :=
  let c := [2, 1, 1, 1, 1, 1].foldl connect {}
  let c := c.post 1 "CHECK#%"
  { roster := c.roster.remove 5
    presence := [0, 1, 2, 3, 5].foldl (·.join 0 ·) (c.presence.join 1 4)
    mail := c.mail.modify 2 (·.close) }

/-- The second client blocks a delivery without a limit unless it comes from that client. -/
theorem publishing_agrees_crowded :
    ¬ crowded.Blocked 0 (some 1) ∧ crowded.Blocked 0 none ∧
      (crowded.publishReliable 0 "LE#%" 0 (some 1)).court = crowded.publishLossy 0 "LE#%" ∧
      (crowded.beginSending 0 "LE#%" (some 1)).Completes "LE#%" 0
        (crowded.publishLossy 0 "LE#%") ∧
      (crowded.beginSending 0 "LE#%" none).Completes "LE#%" 1500
        (crowded.publishLossy 0 "LE#%") ∧
      (crowded.beginSending 0 "LE#%" none).NeverCompletes "LE#%" 0 ∧
      (List.range 6).map (crowded.publishLossy 0 "LE#%").waitingFor =
        [["LE#%"], ["CHECK#%"], [], ["LE#%"], [], []] := by
  have free : ¬ crowded.Blocked 0 (some 1) := by
    unfold Blocked
    decide
  have blocked : crowded.Blocked 0 none := by
    unfold Blocked
    decide
  obtain ⟨-, own, -⟩ := crowded.publishing_agrees 0 "LE#%" (some 1)
  obtain ⟨-, limited, never⟩ := crowded.publishing_agrees 0 "LE#%" none
  obtain ⟨court, -, completes⟩ := own 0 (.inr free)
  exact ⟨free, blocked, court, completes, (limited 1500 (.inl (by decide))).2.2,
    (never blocked).2, by decide⟩

end CourtroomGateway.Court
