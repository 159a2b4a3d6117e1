import CourtroomGateway.Proofs.Gateway.Reciprocity
import CourtroomGateway.Proofs.Gateway.Survival

/-! Who writes what. A client's profile, place and session are written in its own turns and nowhere
else: not by what another client sends, not where areas fill and empty around it, and not when
another client has to let go of a character for its sake. Who has departed leaves nothing behind,
and since ids are not given out again this stays so. -/

namespace CourtroomGateway

namespace Court

/-- All that is held of the client is as it was, except that wires may have been put into its
mailbox. -/
structure Keeps (c c' : Court) (id : Nat) : Prop where
  profile : c'.roster.find? id = c.roster.find? id
  place : c'.presence.areaOf id = c.presence.areaOf id
  listed : ∀ area, id ∈ c'.presence.clientsIn area ↔ id ∈ c.presence.clientsIn area
  boxed : c'.mail.contains id = c.mail.contains id
  mailbox : ∀ m, c.mail.find? id = some m → ∃ m', c'.mail.find? id = some m' ∧ m.Extends m'

theorem Keeps.refl (c : Court) (id : Nat) : c.Keeps c id :=
  ⟨rfl, rfl, fun _ => .rfl, rfl, fun m found => ⟨m, found, .refl m⟩⟩

theorem Keeps.trans {c c' c'' : Court} {id : Nat} (h : c.Keeps c' id) (h' : c'.Keeps c'' id) :
    c.Keeps c'' id where
  profile := h'.profile.trans h.profile
  place := h'.place.trans h.place
  listed area := (h'.listed area).trans (h.listed area)
  boxed := h'.boxed.trans h.boxed
  mailbox m found := by
    obtain ⟨m', found', extends'⟩ := h.mailbox m found
    obtain ⟨m'', found'', extends''⟩ := h'.mailbox m' found'
    exact ⟨m'', found'', extends'.trans extends''⟩

/-- Nothing is held of the client: no profile, no place and no mailbox, and whoever looks at an
area does not see it. -/
structure Forgets (c : Court) (id : Nat) : Prop where
  profile : c.roster.find? id = none
  unlisted : id ∉ c.roster.ids
  nowhere : c.presence.areaOf id = none
  absent : ∀ area, id ∉ c.presence.clientsIn area
  unseen : ∀ area except, ∀ d ∈ c.candidates area except, d.clientId ≠ id
  mailbox : c.mail.find? id = none

end Court

namespace Scene

theorem Spares.keeps {s t : Scene} (h : s.Spares t)
    (consistent : s.hall.court.presence.Consistent) (fills : s.hall.court.Fills t.hall.court)
    {i : Nat} (apart : i ≠ s.client.id) : s.hall.court.Keeps t.hall.court i where
  profile := h.profile i apart
  place := h.place i apart
  listed area := by
    rw [(h.consistent consistent).mem_clientsIn, consistent.mem_clientsIn, h.place i apart]
  boxed := fills.boxes i
  mailbox := fills.filled i

theorem keeps_dispatch {s : Scene} (consistent : s.hall.court.presence.Consistent)
    (p : Wire.Packet) {i : Nat} (apart : i ≠ s.client.id) :
    s.hall.court.Keeps (Handlers.builtin.dispatch s p).scene.hall.court i :=
  (s.turned_dispatch p).spares.keeps consistent (s.fills_dispatch p) apart

end Scene

namespace Gateway

/-- The client's session and all that the court holds of it are as they were, but for wires that
were put into its mailbox. -/
structure Untouched (g g' : Gateway) (id : Nat) : Prop where
  session : g'.sessions.find? id = g.sessions.find? id
  court : g.hall.court.Keeps g'.hall.court id

theorem Coherent.untouched_afterTurn {g : Gateway} (h : g.Coherent) {id : Nat} {session : Session}
    (live : g.sessions.find? id = some session) (p : Wire.Packet) {i : Nat} (apart : i ≠ id) :
    g.Untouched (g.afterTurn id session p) i where
  session := by rw [Gateway.afterTurn, find?_after, if_neg apart]
  court := by
    obtain ⟨rfl, -⟩ := h.own id session live
    rw [Gateway.afterTurn, h.builtin]
    exact Scene.keeps_dispatch (s := (g.visit session).scene) h.consistent p apart

/-- While a chunk is handled the client stays who it is, and nobody else is touched. -/
structure Confined (c : Court) (id : Nat) (v : Visit) : Prop where
  own : v.session.client.id = id
  consistent : v.hall.court.presence.Consistent
  others : ∀ i, i ≠ id → c.Keeps v.hall.court i

theorem Confined.turn {c : Court} {id : Nat} {v : Visit} (h : Confined c id v) (now : Nat)
    (p : Wire.Packet) :
    Confined c id ((v.charged now).withScene (Handlers.builtin.dispatch v.scene p).scene) where
  own := (v.scene.turned_dispatch p).spares.id.trans h.own
  consistent := (v.scene.turned_dispatch p).spares.consistent h.consistent
  others i apart := by
    have other : i ≠ v.scene.client.id := h.own ▸ apart
    exact (h.others i apart).trans (Scene.keeps_dispatch h.consistent p other)

theorem Coherent.confined_framed {g : Gateway} (h : g.Coherent) {id : Nat} {session : Session}
    (live : g.sessions.find? id = some session) (chunk : List UInt8) :
    Confined g.hall.court id ((g.visit session).framed chunk) := by
  obtain ⟨own, -⟩ := h.own id session live
  unfold Visit.framed
  split
  · exact ⟨own, h.consistent, fun i _ => .refl _ i⟩
  · exact ⟨own, h.consistent, fun i _ => .refl _ i⟩

theorem untouched_send {config : Config} {g : Gateway} (reached : Reached config g) {id : Nat}
    {session : Session} (live : g.sessions.find? id = some session) (readings : Nat → Nat)
    (chunk : List UInt8) {i : Nat} (apart : i ≠ id) :
    g.Untouched (g.send id readings chunk).2 i := by
  obtain ⟨w, carried, sent⟩ := carried_send reached live readings chunk
  have confined : Confined g.hall.court id w :=
    carried.keeps (Confined g.hall.court id) (fun _ _ h => ⟨h.own, h.consistent, h.others⟩)
      (fun now _ p h => h.turn now p) (reached.sound.1.confined_framed live chunk)
  rw [sent]
  exact ⟨by rw [find?_after, if_neg apart], confined.others i apart⟩

theorem Coherent.untouched_depart {g : Gateway} (h : g.Coherent) (id : Nat) {i : Nat}
    (apart : i ≠ id) :
    g.Untouched (g.depart id) i ∧
      (g.depart id).hall.court.mail.find? i = g.hall.court.mail.find? i := by
  have consistent := (h.depart id).consistent
  unfold Gateway.depart at consistent ⊢
  cases live : g.sessions.find? id with
  | none => exact ⟨⟨rfl, .refl _ i⟩, rfl⟩
  | some session =>
    obtain ⟨rfl, -⟩ := h.own id session live
    simp only [live] at consistent ⊢
    have profile : (g.hall.endSession session.client).court.roster.find? i =
        g.hall.court.roster.find? i := by
      rw [Hall.roster_endSession, Court.Roster.find?_remove, if_neg apart]
    have place : (g.hall.endSession session.client).court.presence.areaOf i =
        g.hall.court.presence.areaOf i := by
      rw [Hall.presence_endSession, Court.Presence.areaOf_leave, if_neg apart]
    have mail : (g.hall.endSession session.client).court.mail.find? i =
        g.hall.court.mail.find? i := by
      rw [Hall.mail_endSession, Table.find?_erase, if_neg apart]
    have kept : g.hall.court.Keeps (g.hall.endSession session.client).court i :=
      { profile
        place
        listed := fun area => by rw [consistent.mem_clientsIn, h.consistent.mem_clientsIn, place]
        boxed := by rw [Table.contains, Table.contains, mail]
        mailbox := fun m found => ⟨m, mail.trans found, .refl m⟩ }
    exact ⟨⟨by rw [Table.find?_erase, if_neg apart], kept⟩, mail⟩

/-- The client is not on the roster, and its id is not given out any more. -/
structure Gone (g : Gateway) (id : Nat) : Prop where
  past : id < g.hall.court.roster.nextId
  missing : ¬ g.hall.court.roster.contains id

theorem Retains.gone {g g' : Gateway} (h : g.Retains g') {id : Nat} (gone : g.Gone id) :
    g'.Gone id where
  past := gone.past.trans_le h.nextId
  missing there := by
    have kept := h.profile id gone.past there
    rw [Court.Roster.contains, kept] at there
    exact gone.missing there

theorem gone_step {admits : Scene → Wire.Packet → Prop} {g g' : Gateway} (coherent : g.Coherent)
    {id : Nat} (gone : g.Gone id) (step : Step admits g g') : g'.Gone id := by
  rcases step.quiet_or_turn with quiet | ⟨i, session, p, live, -, rfl⟩
  · exact (retains_quiet (.single quiet)).gone gone
  · have spares := ((g.visit session).scene.turned_dispatch p).spares
    rw [coherent.builtin]
    exact ⟨spares.nextId ▸ gone.past, spares.enrolled id ▸ gone.missing⟩

theorem gone_leads {admits : Scene → Wire.Packet → Prop} {g g' : Gateway} {id : Nat}
    (coherent : g.Coherent) (gone : g.Gone id) (leads : Leads admits g g') : g'.Gone id :=
  (leads.keeps_of_coherent (·.Gone id) (fun _ _ coherent gone next => gone_step coherent gone next)
    coherent gone).2

theorem Reached.forgets {config : Config} {g : Gateway} (reached : Reached config g) {id : Nat}
    (gone : g.Gone id) : g.sessions.find? id = none ∧ g.hall.court.Forgets id := by
  obtain ⟨coherent, boxed⟩ := reached.sound
  have profile : g.hall.court.roster.find? id = none := by
    simpa [Court.Roster.contains] using gone.missing
  have sessionless : ¬ g.sessions.contains id := coherent.seated id ▸ gone.missing
  have nowhere : g.hall.court.presence.areaOf id = none := by
    rw [Option.eq_none_iff_forall_ne_some]
    intro area there
    exact gone.missing (coherent.placed id area there)
  have mailless : ¬ g.hall.court.mail.contains id := boxed.boxes id ▸ sessionless
  refine ⟨by simpa [Table.contains] using sessionless, ?_⟩
  constructor
  · exact profile
  · exact fun listed => gone.missing ((Table.mem_keys_iff _ _).1 listed)
  · exact nowhere
  · intro area there
    rw [coherent.consistent.mem_clientsIn, nowhere] at there
    cases there
  · rintro area except d listed rfl
    obtain ⟨-, -, known⟩ := Court.mem_candidates_iff.1 listed
    cases known.symm.trans profile
  · simpa [Table.contains] using mailless

theorem Coherent.gone_depart {g : Gateway} (h : g.Coherent) {id : Nat} {session : Session}
    (live : g.sessions.find? id = some session) : (g.depart id).Gone id := by
  have enrolled : g.hall.court.roster.contains id := by
    rw [h.seated, Table.contains, live]
    rfl
  have past := h.fresh id enrolled
  have unseated := (h.depart id).seated id
  have retains := g.retains_depart id
  refine ⟨past.trans_le retains.nextId, ?_⟩
  rw [unseated, Gateway.depart, live]
  simp [Table.contains]

/-- In every state that can be reached, what a client sends, one packet or a whole chunk, leaves
every other client's session, profile and place alone, and so does its departure, which also leaves
their mailboxes alone. A client that has departed is forgotten then and at all later times. -/
theorem others_untouched {config : Config} {g : Gateway} (reached : Reached config g) {id : Nat}
    {session : Session} (live : g.sessions.find? id = some session) :
    (∀ p i, i ≠ id → g.Untouched (g.afterTurn id session p) i) ∧
      (∀ readings chunk i, i ≠ id → g.Untouched (g.send id readings chunk).2 i) ∧
      (∀ i, i ≠ id → g.Untouched (g.depart id) i ∧
        (g.depart id).hall.court.mail.find? i = g.hall.court.mail.find? i) ∧
      ∀ g', Leads (fun _ _ => True) (g.depart id) g' →
        g'.sessions.find? id = none ∧ g'.hall.court.Forgets id := by
  obtain ⟨coherent, -⟩ := reached.sound
  refine ⟨fun p i apart => coherent.untouched_afterTurn live p apart,
    fun readings chunk i apart => untouched_send reached live readings chunk apart,
    fun i apart => coherent.untouched_depart id apart, fun g' leads => ?_⟩
  have departed : Reached config (g.depart id) := .step reached (.depart id : Step _ _ _)
  exact (departed.leads leads).forgets
    (gone_leads departed.sound.1 (coherent.gone_depart live) leads)

/-- Two clients play one character in two areas. -/
def namesakes : Gateway :=
  doors.run
    [.arrive .tcp 0, .arrive .ws 0, feeds 0 "RD#%MC#Courtroom#0#%CC#0#0#%", feeds 1 "RD#%CC#1#0#%"]

/-- What brings the second client to the first, where it has to let go of the character. -/
def follow : Wire.Packet := ⟨"MC", ["Courtroom", "0"]⟩

theorem others_untouched_namesakes :
    Reached courthouse namesakes ∧ ∃ session, namesakes.sessions.find? 1 = some session ∧
      (namesakes.afterTurn 1 session follow).hall.court.roster.find? 1 = some {} ∧
      namesakes.Untouched (namesakes.afterTurn 1 session follow) 0 ∧
      namesakes.Untouched
        (namesakes.send 1 (fun _ => 0) (Text.Utf8.encode "MC#Courtroom#0#%")).2 0 ∧
      namesakes.Untouched (namesakes.depart 1) 0 ∧
      Leads (fun _ _ => True) (namesakes.depart 1) ((namesakes.depart 1).arrive .tcp 0).2 ∧
      ((namesakes.depart 1).arrive .tcp 0).2.hall.court.Forgets 1 := by
  have reached : Reached courthouse namesakes := reached_run ofConfig_courthouse _
  have evaluated : ((namesakes.sessions.find? 1).map fun session =>
      (namesakes.afterTurn 1 session follow).hall.court.roster.find? 1) = some (some {}) := by
    decide +kernel
  obtain ⟨session, live, released⟩ := Option.map_eq_some_iff.1 evaluated
  obtain ⟨turn, send, depart, later⟩ := others_untouched reached live
  have leads : Leads (fun _ _ => True) (namesakes.depart 1)
      ((namesakes.depart 1).arrive .tcp 0).2 :=
    .single (.arrive .tcp 0)
  exact ⟨reached, session, live, released, turn follow 0 (by decide), send _ _ 0 (by decide),
    (depart 0 (by decide)).1, leads, (later _ leads).2⟩

end Gateway
end CourtroomGateway
