import CourtroomGateway.Gateway
import CourtroomGateway.Table.Lemmas
import Mathlib.Logic.Relation

/-! The steps that a run is made of. An event that sends a chunk is taken apart into the turns of
its packets and the bookkeeping between them, so that what every step keeps holds after every run
and at every turn. The turns of a run are listed with the scenes they begin in, and a run passes
through these turns and no others. -/

namespace CourtroomGateway

/-- A packet that is dispatched, and the scene that it finds. -/
abbrev Turn := Scene × Wire.Packet

namespace Visit

/-- The turns of a list of messages. -/
def turns (handlers : Handlers) (v : Visit) : List (Nat × String) → List Turn
  | [] => []
  | (now, message) :: messages =>
    ((v.packet? now message).map (v.scene, ·)).toList ++
      match v.handle handlers now message with
      | (.goOn, v) => v.turns handlers messages
      | _ => []

end Visit

namespace Gateway

/-- The turns of an event. -/
def turnsOf (g : Gateway) : Event → List Turn
  | .send id readings chunk =>
    match g.sessions.find? id with
    | none => []
    | some session =>
      ((g.visit session).framed chunk).turns g.handlers
        (Visit.timed readings (session.framer.feed chunk).1.messages)
  | _ => []

/-- The turns of a run, in order. -/
def turns (g : Gateway) : List Event → List Turn
  | [] => []
  | event :: events => g.turnsOf event ++ (g.step event).turns events

/-- What a run leaves in a record to which every event adds its part. -/
def record {α : Type} (part : Gateway → Event → List α) (g : Gateway) : List Event → List α
  | [] => []
  | event :: events => part g event ++ (g.step event).record part events

/-- What holds with the empty record, and with each part after its event, holds after the run with
the whole record. -/
theorem record_induction {α : Type} {part : Gateway → Event → List α}
    (holds : Gateway → List α → Prop) {g : Gateway} (start : holds g [])
    (step : ∀ g written event, holds g written →
      holds (g.step event) (written ++ part g event)) (events : List Event) :
    holds (g.run events) (g.record part events) := by
  have further (g : Gateway) (written : List α) (before : holds g written) :
      holds (g.run events) (written ++ g.record part events) := by
    induction events generalizing g written with
    | nil => rwa [record, List.append_nil]
    | cons event events ih =>
      rw [record, ← List.append_assoc]
      exact ih (g.step event) _ (step g written event before)
  exact further g [] start

/-- The single steps. A turn has to be admitted, which lets a run be followed under an assumption
on its turns. -/
inductive Step (admits : Scene → Wire.Packet → Prop) (g : Gateway) : Gateway → Prop
  | arrive (transport : Transport) (now : Nat) : Step admits g (g.arrive transport now).2
  | tend {id : Nat} {session : Session} (live : g.sessions.find? id = some session)
      (framer : Wire.Framer) (bucket : Flood.Bucket) :
      Step admits g (g.after id ⟨g.hall, { session with framer, bucket }⟩)
  | overflow {id : Nat} {session : Session} (live : g.sessions.find? id = some session) :
      Step admits g (g.after id (g.visit session).recordOverflow)
  | drop {id : Nat} {session : Session} (live : g.sessions.find? id = some session) :
      Step admits g (g.after id (g.visit session).recordDrop)
  | turn {id : Nat} {session : Session} (live : g.sessions.find? id = some session)
      {message : String} {p : Wire.Packet} (parsed : Wire.Packet.parse? message = some p)
      (admitted : admits (g.visit session).scene p) :
      Step admits g
        (g.after id
          ((g.visit session).withScene (g.handlers.dispatch (g.visit session).scene p).scene))
  | collect (id : Nat) : Step admits g (g.collect id).2
  | depart (id : Nat) : Step admits g (g.depart id)
  | wait (milliseconds : Nat) : Step admits g (g.wait milliseconds)

theorem Step.weaken {admits admits' : Scene → Wire.Packet → Prop}
    (weaker : ∀ s p, admits s p → admits' s p) {g g' : Gateway} (step : Step admits g g') :
    Step admits' g g' := by
  cases step with
  | arrive transport now => exact .arrive transport now
  | tend live framer bucket => exact .tend live framer bucket
  | overflow live => exact .overflow live
  | drop live => exact .drop live
  | turn live parsed admitted => exact .turn live parsed (weaker _ _ admitted)
  | collect id => exact .collect id
  | depart id => exact .depart id
  | wait milliseconds => exact .wait milliseconds

/-- A step is a turn, or needs none to be admitted. -/
theorem Step.quiet_or_turn {admits : Scene → Wire.Packet → Prop} {g g' : Gateway}
    (step : Step admits g g') :
    Step (fun _ _ => False) g g' ∨ ∃ id session p, g.sessions.find? id = some session ∧
      admits (g.visit session).scene p ∧
      g' = g.after id
        ((g.visit session).withScene (g.handlers.dispatch (g.visit session).scene p).scene) := by
  cases step with
  | arrive transport now => exact .inl (.arrive transport now)
  | tend live framer bucket => exact .inl (.tend live framer bucket)
  | overflow live => exact .inl (.overflow live)
  | drop live => exact .inl (.drop live)
  | turn live parsed admitted => exact .inr ⟨_, _, _, live, admitted, rfl⟩
  | collect id => exact .inl (.collect id)
  | depart id => exact .inl (.depart id)
  | wait milliseconds => exact .inl (.wait milliseconds)

abbrev Leads (admits : Scene → Wire.Packet → Prop) : Gateway → Gateway → Prop :=
  Relation.ReflTransGen (Step admits)

/-- What every step keeps, any number of steps keeps. -/
theorem Leads.keeps {admits : Scene → Wire.Packet → Prop} (holds : Gateway → Prop)
    (step : ∀ g h, holds g → Step admits g h → holds h) {g h : Gateway} (start : holds g)
    (leads : Leads admits g h) : holds h := by
  induction leads with
  | refl => exact start
  | tail _ next ih => exact step _ _ ih next

/-- The turns from one gateway to another, in order. Between them there may be steps that are no
turns. -/
inductive Passes (g : Gateway) : List Turn → Gateway → Prop
  | start : Passes g [] g
  | quiet {ts : List Turn} {g₁ g₂ : Gateway} (before : Passes g ts g₁)
      (step : Step (fun _ _ => False) g₁ g₂) : Passes g ts g₂
  | turn {ts : List Turn} {g₁ : Gateway} (before : Passes g ts g₁) {id : Nat} {session : Session}
      (live : g₁.sessions.find? id = some session) {message : String} {p : Wire.Packet}
      (parsed : Wire.Packet.parse? message = some p) :
      Passes g (ts ++ [((g₁.visit session).scene, p)])
        (g₁.after id
          ((g₁.visit session).withScene (g₁.handlers.dispatch (g₁.visit session).scene p).scene))

namespace Passes

theorem trans {g g₁ g₂ : Gateway} {ts us : List Turn} (h : g.Passes ts g₁) (h' : g₁.Passes us g₂) :
    g.Passes (ts ++ us) g₂ := by
  induction h' with
  | start => rwa [List.append_nil]
  | quiet _ step ih => exact .quiet ih step
  | turn _ live parsed ih =>
    rw [← List.append_assoc]
    exact .turn ih live parsed

theorem leads {admits : Scene → Wire.Packet → Prop} {g g' : Gateway} {ts : List Turn}
    (h : g.Passes ts g') (admitted : ∀ t ∈ ts, admits t.1 t.2) : Leads admits g g' := by
  induction h with
  | start => exact .refl
  | quiet _ step ih => exact .tail (ih admitted) (step.weaken fun _ _ => False.elim)
  | turn _ live parsed ih =>
    have before := ih fun t mem => admitted t (List.mem_append_left _ mem)
    exact .tail before (.turn live parsed (admitted _ List.mem_concat_self))

/-- A turn on the way begins in a visit to a session that is live by then. -/
theorem split {g g' : Gateway} {earlier later : List Turn} {t : Turn}
    (h : g.Passes (earlier ++ t :: later) g') :
    ∃ g₁ id session, g.Passes earlier g₁ ∧ g₁.sessions.find? id = some session ∧
      (g₁.visit session).scene = t.1 := by
  generalize all : earlier ++ t :: later = ts at h
  induction h generalizing later with
  | start => simp at all
  | quiet _ _ ih => exact ih all
  | @turn ts g₁ before id session live message p parsed ih =>
    rcases List.eq_nil_or_concat later with rfl | ⟨rest, last, rfl⟩
    · obtain ⟨rfl, same⟩ := List.append_inj' all rfl
      obtain rfl := List.singleton_inj.1 same
      exact ⟨g₁, id, session, before, live, rfl⟩
    · rw [List.concat_eq_append, ← List.cons_append, ← List.append_assoc] at all
      exact ih (List.append_inj' all rfl).1

end Passes

theorem find?_after (g : Gateway) (id : Nat) (v : Visit) (i : Nat) :
    (g.after id v).sessions.find? i = if i = id then some v.session else g.sessions.find? i :=
  Table.find?_insert _ _ _ _

theorem contains_after {g : Gateway} {id : Nat} {session : Session}
    (live : g.sessions.find? id = some session) (v : Visit) (i : Nat) :
    (g.after id v).sessions.contains i = g.sessions.contains i := by
  simp only [Table.contains, find?_after]
  split
  next same => rw [same, live]; rfl
  next => rfl

theorem after_after (g : Gateway) (id : Nat) (v w : Visit) :
    (g.after id v).after id w = g.after id w := by
  simp only [after, Table.insert_insert]

theorem after_self {g : Gateway} {id : Nat} {session : Session}
    (live : g.sessions.find? id = some session) : g.after id (g.visit session) = g := by
  have sessions : g.sessions.insert id session = g.sessions := by
    refine Table.ext_find? fun i => ?_
    rw [Table.find?_insert]
    split
    next same => rw [same, live]
    next => rfl
  simp only [after, sessions]

section Visiting
variable {admits : Scene → Wire.Packet → Prop} (g : Gateway) (id : Nat)

theorem live_after (v : Visit) : (g.after id v).sessions.find? id = some v.session := by
  rw [find?_after, if_pos rfl]

theorem step_tend (v : Visit) (framer : Wire.Framer) (bucket : Flood.Bucket) :
    Step admits (g.after id v)
      (g.after id { v with session := { v.session with framer, bucket } }) := by
  have step : Step admits _ _ := .tend (g.live_after id v) framer bucket
  rwa [after_after] at step

theorem passes_handle (now : Nat) (v : Visit) (message : String) :
    (g.after id v).Passes ((v.packet? now message).map (v.scene, ·)).toList
      (g.after id (v.handle g.handlers now message).2) := by
  unfold Visit.handle Visit.packet?
  cases parsed : Wire.Packet.parse? message with
  | none => cases (v.session.bucket.check now).1 <;> exact .start
  | some p =>
    have paid : Step (fun _ _ => False) _ _ :=
      g.step_tend id v v.session.framer (v.session.bucket.check now).2
    let v' := { v with session := { v.session with bucket := (v.session.bucket.check now).2 } }
    have live := g.live_after id v'
    cases verdict : (v.session.bucket.check now).1 with
    | overflow =>
      simp only [verdict]
      exact .quiet .start paid
    | drop =>
      have dropped : Step (fun _ _ => False) _ _ := .drop live
      rw [after_after] at dropped
      simp only [verdict]
      exact .quiet (.quiet .start paid) dropped
    | pass =>
      have turn := Passes.turn (.quiet .start paid) live parsed
      rw [after_after] at turn
      simp only [verdict]
      exact turn

theorem passes_handleAll (v : Visit) (messages : List (Nat × String)) :
    (g.after id v).Passes (v.turns g.handlers messages)
      (g.after id (v.handleAll g.handlers messages).2) := by
  induction messages generalizing v with
  | nil => exact .start
  | cons timed messages ih =>
    obtain ⟨now, message⟩ := timed
    have first := g.passes_handle id now v message
    rw [Visit.handleAll, Visit.turns]
    cases handled : v.handle g.handlers now message with
    | mk flow v' =>
      rw [handled] at first
      cases flow with
      | goOn => exact first.trans (ih v')
      | _ =>
        rw [List.append_nil]
        exact first

theorem passes_framed (v : Visit) (chunk : List UInt8) :
    (g.after id v).Passes [] (g.after id (v.framed chunk)) := by
  have tended : Step (fun _ _ => False) _ _ :=
    g.step_tend id v (v.session.framer.feed chunk).2 v.session.bucket
  let fed := { v.session with framer := (v.session.framer.feed chunk).2 }
  unfold Visit.framed
  split
  · have overflow : Step (fun _ _ => False) _ _ := .overflow (g.live_after id ⟨v.hall, fed⟩)
    rw [after_after] at overflow
    exact .quiet (.quiet .start tended) overflow
  · exact .quiet .start tended

theorem leads_handle (now : Nat) (v : Visit) (message : String)
    (h : ∀ p, v.packet? now message = some p → admits v.scene p) :
    Leads admits (g.after id v) (g.after id (v.handle g.handlers now message).2) := by
  refine (g.passes_handle id now v message).leads fun t mem => ?_
  obtain ⟨p, found, rfl⟩ := Option.map_eq_some_iff.1 (Option.mem_toList.1 mem)
  exact h p found

theorem leads_framed (v : Visit) (chunk : List UInt8) :
    Leads admits (g.after id v) (g.after id (v.framed chunk)) :=
  (g.passes_framed id v chunk).leads fun _ none => absurd none List.not_mem_nil

end Visiting

/-- An event passes through its turns. -/
theorem passes_step (g : Gateway) (event : Event) : g.Passes (g.turnsOf event) (g.step event) := by
  cases event with
  | arrive transport now => exact .quiet .start (.arrive transport now)
  | collect id => exact .quiet .start (.collect id)
  | depart id => exact .quiet .start (.depart id)
  | wait milliseconds => exact .quiet .start (.wait milliseconds)
  | send id readings chunk =>
    rw [step, send, turnsOf]
    cases live : g.sessions.find? id with
    | none => exact .start
    | some session =>
      have framed := g.passes_framed id ⟨g.hall, session⟩ chunk
      rw [after_self live] at framed
      have handled := g.passes_handleAll id ((g.visit session).framed chunk)
        (Visit.timed readings (session.framer.feed chunk).1.messages)
      simp only [Visit.receive_eq]
      exact framed.trans handled

/-- A run passes through its turns. -/
theorem passes_run (g : Gateway) (events : List Event) :
    g.Passes (g.turns events) (g.run events) := by
  induction events generalizing g with
  | nil => exact .start
  | cons event events ih => exact (g.passes_step event).trans (ih (g.step event))

/-- An event leads from the gateway before it to the one after it. -/
theorem leads_step {admits : Scene → Wire.Packet → Prop} (g : Gateway) (event : Event)
    (h : ∀ t ∈ g.turnsOf event, admits t.1 t.2) : Leads admits g (g.step event) :=
  (g.passes_step event).leads h

/-- A run leads from its first gateway to its last. -/
theorem leads_run {admits : Scene → Wire.Packet → Prop} (g : Gateway) (events : List Event)
    (h : ∀ t ∈ g.turns events, admits t.1 t.2) : Leads admits g (g.run events) :=
  (g.passes_run events).leads h

theorem turns_append (g : Gateway) (a b : List Event) :
    g.turns (a ++ b) = g.turns a ++ (g.run a).turns b := by
  induction a generalizing g with
  | nil => rfl
  | cons event a ih =>
    have later := ih (g.step event)
    simp only [List.cons_append, turns, later, List.append_assoc]
    rfl

/-- A turn begins in a visit that is reached from the one before all messages, and the messages
from its own on finish what was begun. -/
theorem turn_of_mem_visit {admits : Scene → Wire.Packet → Prop} (g : Gateway) (id : Nat)
    (v : Visit) (messages : List (Nat × String))
    (h : ∀ t ∈ v.turns g.handlers messages, admits t.1 t.2) {t : Turn}
    (mem : t ∈ v.turns g.handlers messages) :
    ∃ v' now message rest, Leads admits (g.after id v) (g.after id v') ∧
      v'.packet? now message = some t.2 ∧ v'.scene = t.1 ∧
      v.handleAll g.handlers messages = v'.handleAll g.handlers ((now, message) :: rest) := by
  induction messages generalizing v with
  | nil => cases mem
  | cons timed messages ih =>
    obtain ⟨now, message⟩ := timed
    have first : Leads admits _ _ := g.leads_handle id now v message fun p found =>
      h (v.scene, p) (by simp [Visit.turns, found])
    rw [Visit.turns] at h mem
    rcases List.mem_append.1 mem with here | later
    · obtain ⟨p, found, rfl⟩ := Option.map_eq_some_iff.1 (Option.mem_toList.1 here)
      exact ⟨v, now, message, messages, .refl, found, rfl, rfl⟩
    · cases handled : v.handle g.handlers now message with
      | mk flow next =>
        rw [handled] at h later first
        cases flow with
        | goOn =>
          obtain ⟨v', instant, own, rest, leads, found, scene, same⟩ :=
            ih next (fun t mem => h t (List.mem_append_right _ mem)) later
          refine ⟨v', instant, own, rest, first.trans leads, found, scene, ?_⟩
          rw [Visit.handleAll, handled]
          exact same
        | _ => cases later

/-- Where in a run a turn takes place. -/
theorem turn_of_mem (g : Gateway) (admits : Scene → Wire.Packet → Prop) (events : List Event)
    (h : ∀ t ∈ g.turns events, admits t.1 t.2) {t : Turn} (mem : t ∈ g.turns events) :
    ∃ before event later id now v message rest,
      events = before ++ event :: later ∧
      Leads admits g ((g.run before).after id v) ∧
      v.packet? now message = some t.2 ∧ v.scene = t.1 ∧
      (g.run before).step event =
        (g.run before).after id
          (v.handleAll (g.run before).handlers ((now, message) :: rest)).2 := by
  induction events generalizing g with
  | nil => cases mem
  | cons event events ih =>
    rw [turns] at h mem
    rcases List.mem_append.1 mem with here | later
    · have own : ∀ t ∈ g.turnsOf event, admits t.1 t.2 := fun t mem =>
        h t (List.mem_append_left _ mem)
      cases event with
      | arrive transport now => cases here
      | collect id => cases here
      | depart id => cases here
      | wait milliseconds => cases here
      | send id readings chunk =>
        rw [turnsOf] at here own
        cases live : g.sessions.find? id with
        | none =>
          rw [live] at here
          cases here
        | some session =>
          rw [live] at here own
          have framed : Leads admits _ _ := g.leads_framed id (g.visit session) chunk
          rw [after_self live] at framed
          obtain ⟨v, now, message, rest, leads, found, scene, same⟩ :=
            g.turn_of_mem_visit id _ _ own here
          refine ⟨[], .send id readings chunk, events, id, now, v, message, rest, rfl,
            framed.trans leads, found, scene, ?_⟩
          change g.step _ = _
          simp only [step, send, live, Visit.receive_eq, same]
          rfl
    · have first : Leads admits _ _ := g.leads_step event fun t mem =>
        h t (List.mem_append_left _ mem)
      obtain ⟨before, own, rest, id, now, v, message, messages, split, leads, found, scene, same⟩ :=
        ih (g.step event) (fun t mem => h t (List.mem_append_right _ mem)) later
      exact ⟨event :: before, own, rest, id, now, v, message, messages, by rw [split]; rfl,
        first.trans leads, found, scene, same⟩

end Gateway
end CourtroomGateway
