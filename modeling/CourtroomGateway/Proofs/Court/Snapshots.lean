import CourtroomGateway.Proofs.Court.Delivery
import CourtroomGateway.Proofs.Court.Placement

/-! Snapshots of an area as what was done before. Who is a candidate for pairing depends on two
stores that are changed each for itself: presence, where a client stays in an area until it moves,
and the roster, where it has a profile from when it was registered until it is removed. A snapshot
holds the clients that both know, with the last of what was set for each since it was registered. -/

namespace CourtroomGateway.Court

/-- Registers a client under an id that the caller names, in place of any other client of that
id. -/
def register (c : Court) (id capacity : Nat) : Court :=
  { c with
    roster := { c.roster with profiles := c.roster.profiles.insert id {} }
    mail := c.mail.insert id { capacity } }

/-- What is done to roster and presence. -/
inductive Action
  | connect (capacity : Nat)
  | register (id capacity : Nat)
  /-- Takes a client out of the roster alone. -/
  | remove (id : Nat)
  | disconnect (id : Nat)
  | join (area id : Nat)
  | leave (id : Nat)
  | setCharacter (id : Nat) (charId : Int64) (pose : Speech.Pose)
  | setPose (id : Nat) (pose : Speech.Pose)

def perform (c : Court) : Action → Court
  | .connect capacity => c.connect capacity
  | .register id capacity => c.register id capacity
  | .remove id => { c with roster := c.roster.remove id }
  | .disconnect id => c.disconnect id
  | .join area id => { c with presence := c.presence.join area id }
  | .leave id => { c with presence := c.presence.leave id }
  | .setCharacter id charId pose => { c with roster := c.roster.setCharacter id charId pose }
  | .setPose id pose => { c with roster := c.roster.setPose id pose }

def performAll (c : Court) (actions : List Action) : Court := actions.foldl perform c

namespace Action

/-- A connection is told by the id that it gets. -/
def named (next : Nat) : Action → Action
  | connect capacity => register next capacity
  | a => a

/-- The action says where the client is. -/
def moves (id : Nat) : Action → Bool
  | join _ i | leave i | disconnect i => id = i
  | _ => false

/-- The action says whether the client is registered. -/
def enrols (id : Nat) : Action → Bool
  | register i _ | remove i | disconnect i => id = i
  | _ => false

def charId? (id : Nat) : Action → Option Int64
  | setCharacter i charId _ => if id = i then some charId else none
  | _ => none

def pose? (id : Nat) : Action → Option Speech.Pose
  | setCharacter i _ pose | setPose i pose => if id = i then some pose else none
  | _ => none

/-- Where a client is whom the action moves. -/
def area? : Action → Option Nat
  | join area _ => some area
  | _ => none

/-- What the roster has of a client whom the action registers or removes. -/
def profile? : Action → Option Profile
  | register _ _ => some {}
  | _ => none

end Action

/-- The actions with the ids of all connections, which are given out in order. -/
def numbered (next : Nat) : List Action → List Action
  | [] => []
  | .connect capacity :: actions => .register next capacity :: numbered (next + 1) actions
  | a :: actions => a :: numbered next actions

/-- The last action of the history that has the property, and those that came after it. -/
def LastOf (property : Action → Bool) (history : List Action) (a : Action) (since : List Action) :
    Prop :=
  ∃ before, history = before ++ a :: since ∧ property a ∧ ∀ b ∈ since, ¬ property b

/-- The client joined the area, and neither joined another one nor left since. -/
def LastJoined (history : List Action) (area id : Nat) : Prop :=
  ∃ since, LastOf (·.moves id) history (.join area id) since

/-- The client was registered before these actions, and is registered still. -/
def Registered (history : List Action) (id : Nat) (since : List Action) : Prop :=
  ∃ capacity, LastOf (·.enrols id) history (.register id capacity) since

/-- The character and the pose that were last set in these actions. -/
def profileSince (id : Nat) (since : List Action) : Profile where
  charId := (since.filterMap (·.charId? id)).getLast?.getD (-1)
  pose := (since.filterMap (·.pose? id)).getLast?.getD {}

theorem lastOf_concat {property : Action → Bool} {history : List Action} {a b : Action}
    {since : List Action} :
    LastOf property (history ++ [b]) a since ↔
      property b ∧ a = b ∧ since = [] ∨
        ¬ property b ∧ ∃ earlier, since = earlier ++ [b] ∧ LastOf property history a earlier := by
  constructor
  · rintro ⟨before, split, own, later⟩
    rcases List.eq_nil_or_concat since with rfl | ⟨earlier, c, rfl⟩
    · obtain ⟨-, same⟩ := List.append_inj' split rfl
      obtain rfl := List.singleton_inj.1 same
      exact .inl ⟨own, rfl, rfl⟩
    · rw [List.concat_eq_append] at split later ⊢
      rw [← List.cons_append, ← List.append_assoc] at split
      obtain ⟨rfl, same⟩ := List.append_inj' split rfl
      obtain rfl := List.singleton_inj.1 same
      refine .inr ⟨later b (by simp), earlier, rfl, before, rfl, own, fun d mem => ?_⟩
      exact later d (List.mem_append_left _ mem)
  · rintro (⟨own, rfl, rfl⟩ | ⟨other, earlier, rfl, before, rfl, own, later⟩)
    · exact ⟨history, rfl, own, nofun⟩
    · refine ⟨before, by simp, own, fun d mem => ?_⟩
      rcases List.mem_append.1 mem with old | new
      · exact later d old
      · rwa [List.mem_singleton.1 new]

theorem lastJoined_concat (history : List Action) (b : Action) (area id : Nat) :
    LastJoined (history ++ [b]) area id ↔
      if b.moves id then b = .join area id else LastJoined history area id := by
  simp only [LastJoined, lastOf_concat]
  by_cases moves : b.moves id
  · simp [moves, eq_comm]
  · simp only [moves, Bool.false_eq_true, false_and, false_or, not_false_eq_true, true_and,
      if_false]
    rw [exists_comm]
    simp

theorem registered_concat (history : List Action) (b : Action) (id : Nat) (since : List Action) :
    Registered (history ++ [b]) id since ↔
      if b.enrols id then (∃ capacity, b = .register id capacity) ∧ since = []
      else ∃ earlier, since = earlier ++ [b] ∧ Registered history id earlier := by
  simp only [Registered, lastOf_concat]
  by_cases enrols : b.enrols id
  · simp [enrols, eq_comm]
  · simp only [enrols, Bool.false_eq_true, false_and, false_or, not_false_eq_true, true_and,
      if_false]
    rw [exists_comm]
    simp

theorem profileSince_concat (id : Nat) (since : List Action) (b : Action) :
    profileSince id (since ++ [b]) =
      { charId := (b.charId? id).getD (profileSince id since).charId
        pose := (b.pose? id).getD (profileSince id since).pose } := by
  simp only [profileSince, List.filterMap_append, List.getLast?_append]
  cases charId : b.charId? id <;> cases pose : b.pose? id <;> simp [charId, pose]

section Performed
variable (c : Court) (a : Action) (id : Nat)

theorem areaOf_perform :
    (c.perform a).presence.areaOf id =
      if a.moves id then a.area? else c.presence.areaOf id := by
  cases a <;>
    simp [perform, Action.moves, Action.area?, connect, register, disconnect]

theorem find?_roster_perform :
    (c.perform a).roster.find? id =
      if (a.named c.roster.nextId).enrols id then (a.named c.roster.nextId).profile?
      else (c.roster.find? id).map fun p =>
        { charId := ((a.named c.roster.nextId).charId? id).getD p.charId
          pose := ((a.named c.roster.nextId).pose? id).getD p.pose } := by
  cases a with
  | register i capacity =>
    simp [perform, Action.named, Action.enrols, Action.profile?, Action.charId?, Action.pose?,
      register, Roster.find?]
  | setCharacter i charId pose =>
    by_cases same : id = i <;>
      simp [perform, Action.named, Action.enrols, Action.charId?, Action.pose?, same]
  | setPose i pose =>
    by_cases same : id = i <;>
      simp [perform, Action.named, Action.enrols, Action.charId?, Action.pose?, same]
  | _ =>
    simp [perform, Action.named, Action.enrols, Action.profile?, Action.charId?, Action.pose?,
      connect, disconnect]

theorem consistent_perform {c : Court} (h : c.presence.Consistent) :
    (c.perform a).presence.Consistent := by
  cases a with
  | join area id => exact h.join area id
  | leave id => exact h.leave id
  | disconnect id => exact h.leave id
  | _ => exact h

end Performed

/-- The court is what the history says: who is where, and who is registered with what. -/
structure Recounts (c : Court) (history : List Action) : Prop where
  consistent : c.presence.Consistent
  place : ∀ id area, c.presence.areaOf id = some area ↔ LastJoined history area id
  profile : ∀ id p, c.roster.find? id = some p ↔
    ∃ since, Registered history id since ∧ profileSince id since = p

theorem recounts_empty : Recounts {} [] where
  consistent := Presence.consistent_empty
  place id area := by simp [LastJoined, LastOf, Presence.areaOf]
  profile id p := by simp [Registered, LastOf, Roster.find?]

theorem Recounts.perform {c : Court} {history : List Action} (h : c.Recounts history)
    (a : Action) : (c.perform a).Recounts (history ++ [a.named c.roster.nextId]) where
  consistent := consistent_perform a h.consistent
  place id area := by
    have moves : (a.named c.roster.nextId).moves id ↔ a.moves id := by cases a <;> rfl
    have joins : a.moves id → (a.area? = some area ↔ a.named c.roster.nextId = .join area id) := by
      cases a <;> simp +contextual [Action.moves, Action.area?, Action.named]
    rw [areaOf_perform, lastJoined_concat]
    simp only [moves]
    split
    next moved => exact joins moved
    next => exact h.place id area
  profile id p := by
    rw [find?_roster_perform]
    generalize a.named c.roster.nextId = b
    simp only [registered_concat]
    split
    next enrols =>
      have fresh : b.profile? = some p ↔
          (∃ capacity, b = .register id capacity) ∧ profileSince id [] = p := by
        cases b <;> simp_all [Action.enrols, Action.profile?, profileSince]
      rw [fresh]
      constructor
      · rintro ⟨registers, rfl⟩
        exact ⟨[], ⟨registers, rfl⟩, rfl⟩
      · rintro ⟨since, ⟨registers, rfl⟩, shown⟩
        exact ⟨registers, shown⟩
    next =>
      rw [Option.map_eq_some_iff]
      simp only [h.profile]
      constructor
      · rintro ⟨q, ⟨earlier, registered, rfl⟩, rfl⟩
        exact ⟨_, ⟨earlier, rfl, registered⟩, profileSince_concat id earlier b⟩
      · rintro ⟨since, ⟨earlier, rfl, registered⟩, rfl⟩
        exact ⟨_, ⟨earlier, registered, rfl⟩, (profileSince_concat id earlier b).symm⟩

/-- Whatever is done next, the history goes on with it. -/
theorem Recounts.performAll {c : Court} {history : List Action} (h : c.Recounts history)
    (actions : List Action) :
    (c.performAll actions).Recounts (history ++ numbered c.roster.nextId actions) := by
  induction actions generalizing c history with
  | nil => rwa [numbered, List.append_nil]
  | cons a actions ih =>
    have later := ih (h.perform a)
    rw [List.append_assoc, List.singleton_append] at later
    cases a <;> exact later

theorem ascending_candidates (c : Court) (area except : Nat) :
    (c.candidates area except).Pairwise (·.clientId < ·.clientId) := by
  rw [candidates, Roster.candidates, List.pairwise_filterMap]
  refine ((c.presence.ascending_clientsIn area).filter _).imp fun {i j} below d found e found' => ?_
  obtain ⟨-, -, rfl⟩ := Option.map_eq_some_iff.1 found
  obtain ⟨-, -, rfl⟩ := Option.map_eq_some_iff.1 found'
  exact below

/-- After any actions, with whatever ids, a snapshot of an area lists in ascending order exactly
the clients other than the excepted one that last joined this area and are registered, each with
what was last set since it was registered. -/
theorem candidates_of_history (actions : List Action) (area except : Nat) :
    ((performAll {} actions).candidates area except).Pairwise (·.clientId < ·.clientId) ∧
      ∀ d : Speech.Candidate, d ∈ (performAll {} actions).candidates area except ↔
        LastJoined (numbered 0 actions) area d.clientId ∧ d.clientId ≠ except ∧
          ∃ since, Registered (numbered 0 actions) d.clientId since ∧
            profileSince d.clientId since = ⟨d.charId, d.pose⟩ := by
  have recounts := recounts_empty.performAll actions
  rw [List.nil_append] at recounts
  refine ⟨ascending_candidates _ area except, fun d => ?_⟩
  rw [mem_candidates_iff, recounts.consistent.mem_clientsIn, recounts.place, recounts.profile]

/-- The first client is in the area before it is registered, and what was set before does not
count. The second one goes on to be in the area while it is away from the roster. -/
example :
    (performAll {}
        [.join 0 0, .setCharacter 0 5 {}, .connect 1, .connect 1, .join 0 1,
          .setCharacter 1 3 { pos := "wit" }, .remove 1, .register 1 1,
          .setPose 1 { pos := "def" }]).candidates 0 7 =
      [⟨0, -1, {}⟩, ⟨1, -1, { pos := "def" }⟩] := by
  decide

end CourtroomGateway.Court
