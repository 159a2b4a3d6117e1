import CourtroomGateway.Court.Delivery
import CourtroomGateway.Table.Lemmas

/-! What delivery does to the mail. A wire is put at the end of a queue that has room and nowhere
else, and while nobody takes anything out a reliable delivery leaves the court as a lossy one
does. Where nobody is named twice, every mailbox gets a wire once. -/

namespace CourtroomGateway.Court

theorem eq_of_parts {c c' : Court} (roster : c.roster = c'.roster)
    (presence : c.presence = c'.presence) (mail : c.mail = c'.mail) : c = c' := by
  cases c
  cases c'
  cases roster
  cases presence
  cases mail
  rfl

/-- The wires that wait for a client. -/
def waitingFor (c : Court) (id : Nat) : List String :=
  ((c.mail.find? id).map (·.waiting)).getD []

theorem waitingFor_congr {c c' : Court} (same : c.mail = c'.mail) (id : Nat) :
    c.waitingFor id = c'.waitingFor id := by
  rw [waitingFor, waitingFor, same]

theorem waitingFor_post (c : Court) (id i : Nat) (wire : String) :
    (c.post id wire).waitingFor i =
      if i = id ∧ c.room id = .free then c.waitingFor i ++ [wire] else c.waitingFor i := by
  unfold waitingFor room
  rw [find?_mail_post]
  by_cases same : i = id
  · subst same
    cases found : c.mail.find? i with
    | none => simp
    | some m =>
      have offered := m.waiting_offer wire
      simp only [if_true, true_and, Option.map_some, Option.getD_some, offered]
  · simp [same]

theorem room_post_of_ne {id i : Nat} (apart : i ≠ id) (c : Court) (wire : String) :
    (c.post id wire).room i = c.room i := by
  unfold room
  rw [find?_mail_post, if_neg apart]

theorem post_of_not_free {c : Court} {id : Nat} (full : c.room id ≠ .free) (wire : String) :
    c.post id wire = c := by
  have mail : c.mail.modify id (·.offer wire) = c.mail := by
    refine Table.ext_find? fun i => ?_
    rw [Table.find?_modify]
    split
    next same =>
      subst same
      cases found : c.mail.find? i with
      | none => rfl
      | some m =>
        have stuck : m.room ≠ .free := by simpa [room, found] using full
        rw [Option.map_some, Mailbox.offer_of_not_free stuck]
    next => rfl
  rw [post, mail]

theorem court_send (d : Delivery) (wire : String) (timeout : Nat) (origin : Option Nat)
    (id : Nat) : (d.send wire timeout origin id).court = d.court.post id wire := by
  unfold Delivery.send
  split
  · rfl
  split
  next => rfl
  next closed => rw [post_of_not_free (by rw [closed]; nofun)]
  next full =>
    rw [post_of_not_free (by rw [full]; nofun)]
    split <;> rfl

/-- While nothing is taken out, waiting for room gains nothing. -/
theorem court_publishReliable (c : Court) (area : Nat) (wire : String) (timeout : Nat)
    (origin : Option Nat) :
    (c.publishReliable area wire timeout origin).court = c.publishLossy area wire := by
  unfold publishReliable publishLossy postAll
  have sent (ids : List Nat) (d : Delivery) :
      (ids.foldl (fun d id => d.send wire timeout origin id) d).court =
        ids.foldl (fun c id => c.post id wire) d.court := by
    induction ids generalizing d with
    | nil => rfl
    | cons id ids ih => rw [List.foldl_cons, List.foldl_cons, ih, court_send]
  exact sent _ _

/-- Several wires for one client, in order. -/
def postEach (c : Court) (id : Nat) (wires : List String) : Court :=
  wires.foldl (fun c wire => c.post id wire) c

theorem postEach_append (c : Court) (id : Nat) (a b : List String) :
    c.postEach id (a ++ b) = (c.postEach id a).postEach id b := List.foldl_append

theorem mail_postAll_congr {c c' : Court} (same : c.mail = c'.mail) (ids : List Nat)
    (wire : String) : (c.postAll ids wire).mail = (c'.postAll ids wire).mail := by
  induction ids generalizing c c' with
  | nil => exact same
  | cons id ids ih => exact ih (congrArg (·.modify id (·.offer wire)) same)

theorem mail_postEach_congr {c c' : Court} (same : c.mail = c'.mail) (id : Nat)
    (wires : List String) : (c.postEach id wires).mail = (c'.postEach id wires).mail := by
  induction wires generalizing c c' with
  | nil => exact same
  | cons wire wires ih => exact ih (congrArg (·.modify id (·.offer wire)) same)

/-- Whom a delivery reaches is settled by presence and by who is on the roster. -/
theorem mail_publishLossy_congr {c c' : Court}
    (enrolled : ∀ i, c.roster.contains i = c'.roster.contains i)
    (presence : c.presence = c'.presence) (mail : c.mail = c'.mail) (area : Nat) (wire : String) :
    (c.publishLossy area wire).mail = (c'.publishLossy area wire).mail := by
  have recipients : c.recipients area = c'.recipients area := by
    rw [recipients, recipients, presence, funext enrolled]
  rw [publishLossy, publishLossy, recipients]
  exact mail_postAll_congr mail _ wire

theorem exists_waitingFor_postEach (c : Court) (id : Nat) (wires : List String) (i : Nat) :
    ∃ new, (c.postEach id wires).waitingFor i = c.waitingFor i ++ new ∧ new ⊆ wires := by
  induction wires generalizing c with
  | nil => exact ⟨[], (List.append_nil _).symm, List.Subset.refl _⟩
  | cons wire wires ih =>
    obtain ⟨new, rest, listed⟩ := ih (c.post id wire)
    rw [waitingFor_post] at rest
    have rest : (c.postEach id (wire :: wires)).waitingFor i = _ := rest
    split at rest
    · rw [List.append_assoc] at rest
      exact ⟨wire :: new, rest, List.cons_subset_cons wire listed⟩
    · exact ⟨new, rest, List.subset_cons_of_subset wire listed⟩

/-- Posting makes no room. -/
theorem room_of_room_post {c : Court} {id i : Nat} {wire : String}
    (free : (c.post id wire).room i = .free) : c.room i = .free := by
  by_cases same : i = id
  · subst same
    by_cases before : c.room i = .free
    · exact before
    · rwa [post_of_not_free before] at free
  · rwa [room_post_of_ne same] at free

theorem exists_waitingFor_postAll (c : Court) (ids : List Nat) (wire : String) (i : Nat) :
    ∃ new, (c.postAll ids wire).waitingFor i = c.waitingFor i ++ new ∧
      ∀ w ∈ new, w = wire ∧ i ∈ ids ∧ c.room i = .free := by
  induction ids generalizing c with
  | nil => exact ⟨[], (List.append_nil _).symm, nofun⟩
  | cons id ids ih =>
    obtain ⟨new, rest, sent⟩ := ih (c.post id wire)
    have later : ∀ w ∈ new, w = wire ∧ i ∈ id :: ids ∧ c.room i = .free := by
      intro w mem
      obtain ⟨same, listed, free⟩ := sent w mem
      exact ⟨same, List.mem_cons_of_mem id listed, room_of_room_post free⟩
    rw [waitingFor_post] at rest
    have rest : (c.postAll (id :: ids) wire).waitingFor i = _ := rest
    split at rest
    next here =>
      obtain ⟨rfl, free⟩ := here
      rw [List.append_assoc] at rest
      have now : wire = wire ∧ i ∈ i :: ids ∧ c.room i = .free := ⟨rfl, List.mem_cons_self, free⟩
      exact ⟨wire :: new, rest, List.forall_mem_cons.2 ⟨now, later⟩⟩
    next => exact ⟨new, rest, later⟩

/-- Nothing that waits is lost or overtaken. -/
def Grows (c c' : Court) : Prop := ∀ id, c.waitingFor id <+: c'.waitingFor id

theorem Grows.refl (c : Court) : c.Grows c := fun _ => List.prefix_rfl

theorem Grows.trans {c c' c'' : Court} (h : c.Grows c') (h' : c'.Grows c'') : c.Grows c'' :=
  fun id => (h id).trans (h' id)

theorem grows_postAll (c : Court) (ids : List Nat) (wire : String) :
    c.Grows (c.postAll ids wire) := by
  intro i
  obtain ⟨new, same, -⟩ := c.exists_waitingFor_postAll ids wire i
  exact ⟨new, same.symm⟩

theorem grows_postEach (c : Court) (id : Nat) (wires : List String) :
    c.Grows (c.postEach id wires) := by
  intro i
  obtain ⟨new, same, -⟩ := c.exists_waitingFor_postEach id wires i
  exact ⟨new, same.symm⟩

theorem mem_waitingFor_postEach {c : Court} {id : Nat} {wires : List String} {i : Nat} {w : String}
    (mem : w ∈ (c.postEach id wires).waitingFor i) : w ∈ c.waitingFor i ∨ w ∈ wires := by
  obtain ⟨new, same, listed⟩ := c.exists_waitingFor_postEach id wires i
  rw [same] at mem
  exact (List.mem_append.1 mem).imp_right fun sent => listed sent

/-- What waits after a wire was posted waited before or is that wire, which someone had room
for. -/
theorem mem_waitingFor_postAll {c : Court} {ids : List Nat} {wire : String} {i : Nat} {w : String}
    (mem : w ∈ (c.postAll ids wire).waitingFor i) :
    w ∈ c.waitingFor i ∨ w = wire ∧ ∃ id ∈ ids, c.room id = .free := by
  obtain ⟨new, same, sent⟩ := c.exists_waitingFor_postAll ids wire i
  rw [same] at mem
  refine (List.mem_append.1 mem).imp_right fun later => ?_
  obtain ⟨same, listed, free⟩ := sent w later
  exact ⟨same, i, listed, free⟩

theorem waits_postAll {c : Court} {ids : List Nat} {id : Nat} (listed : id ∈ ids)
    (free : c.room id = .free) (wire : String) : wire ∈ (c.postAll ids wire).waitingFor id := by
  induction ids generalizing c with
  | nil => cases listed
  | cons first ids ih =>
    by_cases same : id = first
    · subst same
      have posted : wire ∈ (c.post id wire).waitingFor id := by
        rw [waitingFor_post, if_pos ⟨rfl, free⟩]
        exact List.mem_append_right _ List.mem_cons_self
      exact ((c.post id wire).grows_postAll ids wire id).subset posted
    · have later := (List.mem_cons.1 listed).resolve_left same
      exact ih (c := c.post first wire) later ((room_post_of_ne same c wire).trans free)

/-- The wire is one of those that were put behind what waits for the client. -/
def Appends (c c' : Court) (id : Nat) (wire : String) : Prop :=
  ∃ new, c'.waitingFor id = c.waitingFor id ++ new ∧ wire ∈ new

/-- What is put behind one and the same queue is known. -/
theorem Appends.mem {c c' : Court} {id : Nat} {wire : String} (h : c.Appends c' id wire)
    {new : List String} (known : c'.waitingFor id = c.waitingFor id ++ new) : wire ∈ new := by
  obtain ⟨others, same, mem⟩ := h
  rw [known, List.append_right_inj] at same
  exact same ▸ mem

/-- Each of these clients is offered the wire, once, and no other mailbox is touched. -/
theorem find?_mail_postAll {ids : List Nat} (unique : ids.Nodup) (c : Court) (wire : String)
    (i : Nat) :
    (c.postAll ids wire).mail.find? i =
      (c.mail.find? i).map fun m => if i ∈ ids then m.offer wire else m := by
  induction ids generalizing c with
  | nil => simp [postAll]
  | cons id ids ih =>
    obtain ⟨absent, unique⟩ := List.nodup_cons.1 unique
    have rest := ih unique (c.post id wire)
    rw [find?_mail_post] at rest
    refine rest.trans ?_
    by_cases same : i = id
    · subst same
      simp [absent, Function.comp_def]
    · simp [same]

theorem find?_mail_postEach (c : Court) (id : Nat) (wires : List String) (i : Nat) :
    (c.postEach id wires).mail.find? i =
      (c.mail.find? i).map fun m => if i = id then wires.foldl Mailbox.offer m else m := by
  induction wires generalizing c with
  | nil => simp [postEach]
  | cons wire wires ih =>
    have rest := ih (c.post id wire)
    rw [find?_mail_post] at rest
    refine rest.trans ?_
    by_cases same : i = id <;> simp [same, Function.comp_def]

/-- Wires were put at the end of the mailbox, and it is the same otherwise. -/
structure Mailbox.Extends (m m' : Mailbox) : Prop where
  capacity : m'.capacity = m.capacity
  listening : m'.listening = m.listening
  waiting : m.waiting <+: m'.waiting

theorem Mailbox.Extends.refl (m : Mailbox) : m.Extends m := ⟨rfl, rfl, List.prefix_rfl⟩

theorem Mailbox.Extends.trans {m m' m'' : Mailbox} (h : m.Extends m') (h' : m'.Extends m'') :
    m.Extends m'' where
  capacity := h'.capacity.trans h.capacity
  listening := h'.listening.trans h.listening
  waiting := h.waiting.trans h'.waiting

theorem Mailbox.extends_offer (m : Mailbox) (wire : String) : m.Extends (m.offer wire) where
  capacity := m.capacity_offer wire
  listening := m.listening_offer wire
  waiting := by
    rw [waiting_offer]
    split
    · exact List.prefix_append _ _
    · exact List.prefix_rfl

theorem Mailbox.extends_foldl_offer (m : Mailbox) (wires : List String) :
    m.Extends (wires.foldl offer m) := by
  induction wires generalizing m with
  | nil => exact .refl m
  | cons wire wires ih => exact (m.extends_offer wire).trans (ih (m.offer wire))

/-- The same clients have mailboxes, and nothing was done to these but that wires were put into
them. -/
structure Fills (c c' : Court) : Prop where
  boxes : ∀ i, c'.mail.contains i = c.mail.contains i
  filled : ∀ i m, c.mail.find? i = some m → ∃ m', c'.mail.find? i = some m' ∧ m.Extends m'

theorem fills_of_map {c c' : Court} (f : Nat → Mailbox → Mailbox)
    (mapped : ∀ i, c'.mail.find? i = (c.mail.find? i).map (f i))
    (grows : ∀ i (m : Mailbox), m.Extends (f i m)) : c.Fills c' where
  boxes i := by rw [Table.contains, Table.contains, mapped, Option.isSome_map]
  filled i m found := ⟨f i m, by rw [mapped, found, Option.map_some], grows i m⟩

theorem fills_postAll {ids : List Nat} (unique : ids.Nodup) (c : Court) (wire : String) :
    c.Fills (c.postAll ids wire) := by
  refine fills_of_map _ (find?_mail_postAll unique c wire) fun i m => ?_
  split
  · exact m.extends_offer wire
  · exact .refl m

theorem fills_postEach (c : Court) (id : Nat) (wires : List String) :
    c.Fills (c.postEach id wires) := by
  refine fills_of_map _ (c.find?_mail_postEach id wires) fun i m => ?_
  split
  · exact m.extends_foldl_offer wires
  · exact .refl m

/-- A candidate is someone else in the area, with what the roster has of it. -/
theorem mem_candidates_iff {c : Court} {area except : Nat} {d : Speech.Candidate} :
    d ∈ c.candidates area except ↔
      d.clientId ∈ c.presence.clientsIn area ∧ d.clientId ≠ except ∧
        c.roster.find? d.clientId = some ⟨d.charId, d.pose⟩ := by
  constructor
  · intro mem
    obtain ⟨id, listed, found⟩ := List.mem_filterMap.1 mem
    obtain ⟨there, apart⟩ := List.mem_filter.1 listed
    obtain ⟨profile, known, rfl⟩ := Option.map_eq_some_iff.1 found
    exact ⟨there, by simpa using apart, known⟩
  · rintro ⟨there, apart, known⟩
    refine List.mem_filterMap.2 ⟨d.clientId, ?_, by rw [known]; rfl⟩
    exact List.mem_filter.2 ⟨there, by simpa using apart⟩

theorem nodup_recipients (c : Court) (area : Nat) : (c.recipients area).Nodup :=
  (Table.nodup_keys _).filter _

end CourtroomGateway.Court
