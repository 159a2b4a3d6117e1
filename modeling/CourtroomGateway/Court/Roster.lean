import CourtroomGateway.Speech.Pairing
import CourtroomGateway.Table

/-! The roster of connected clients: the character each one holds and the pose it last showed.
Ids are given out in order and never again; they are not words and do not wrap, as no gateway lives
to see 2^64 arrivals. Switching the character replaces the pose, so a pose always belongs to the
character beside it. -/

namespace CourtroomGateway.Court

structure Profile where
  /-- The character held, `-1` for a spectator. -/
  charId : Int64 := -1
  pose : Speech.Pose := {}
deriving Repr, DecidableEq

structure Roster where
  profiles : Table Nat Profile := ∅
  nextId : Nat := 0
deriving DecidableEq

namespace Roster

def find? (r : Roster) (id : Nat) : Option Profile := r.profiles.find? id

def contains (r : Roster) (id : Nat) : Bool := (r.find? id).isSome

def ids (r : Roster) : List Nat := r.profiles.keys

def size (r : Roster) : Nat := r.profiles.size

def charId? (r : Roster) (id : Nat) : Option Int64 := (r.find? id).map (·.charId)

def pose? (r : Roster) (id : Nat) : Option Speech.Pose := (r.find? id).map (·.pose)

/-- A new spectator under the next id. -/
def enrol (r : Roster) : Roster where
  profiles := r.profiles.insert r.nextId {}
  nextId := r.nextId + 1

def remove (r : Roster) (id : Nat) : Roster := { r with profiles := r.profiles.erase id }

def setCharacter (r : Roster) (id : Nat) (charId : Int64) (pose : Speech.Pose) : Roster :=
  { r with profiles := r.profiles.modify id fun _ => { charId, pose } }

def setPose (r : Roster) (id : Nat) (pose : Speech.Pose) : Roster :=
  { r with profiles := r.profiles.modify id fun p => { p with pose } }

/-- Some other of these clients holds the character. -/
def taken (r : Roster) (ids : List Nat) (charId : Int64) (except : Nat) : Bool :=
  ids.any fun id => id ≠ except && r.charId? id = some charId

/-- The other ones of these clients that are connected, in the order given. -/
def candidates (r : Roster) (ids : List Nat) (except : Nat) : List Speech.Candidate :=
  (ids.filter (· ≠ except)).filterMap fun id =>
    (r.find? id).map fun p => { clientId := id, charId := p.charId, pose := p.pose }

@[simp] theorem find?_enrol (r : Roster) (id : Nat) :
    r.enrol.find? id = if id = r.nextId then some {} else r.find? id := by
  simp [find?, enrol]

@[simp] theorem find?_remove (r : Roster) (id i : Nat) :
    (r.remove id).find? i = if i = id then none else r.find? i := by
  simp [find?, remove]

@[simp] theorem find?_setCharacter (r : Roster) (id i : Nat) (c : Int64) (pose : Speech.Pose) :
    (r.setCharacter id c pose).find? i =
      if i = id then (r.find? i).map fun _ => ⟨c, pose⟩ else r.find? i := by
  simp [find?, setCharacter]

@[simp] theorem find?_setPose (r : Roster) (id i : Nat) (pose : Speech.Pose) :
    (r.setPose id pose).find? i =
      if i = id then (r.find? i).map fun p => { p with pose } else r.find? i := by
  simp [find?, setPose]

end Roster
end CourtroomGateway.Court
