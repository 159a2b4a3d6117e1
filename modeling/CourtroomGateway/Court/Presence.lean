import CourtroomGateway.Table

/-! Presence: who stands in which area. The map from clients to areas and the sets of clients by
area are kept side by side; a client stands in one area at most, and an area that its last
client left has no set. -/

namespace CourtroomGateway.Court

abbrev Members := Table Nat Unit

structure Presence where
  byArea : Table Nat Members := ∅
  byClient : Table Nat Nat := ∅
deriving DecidableEq

namespace Presence

def areaOf (p : Presence) (client : Nat) : Option Nat := p.byClient.find? client

def membersOf (p : Presence) (area : Nat) : Members := (p.byArea.find? area).getD ∅

/-- The clients in an area, in ascending order. -/
def clientsIn (p : Presence) (area : Nat) : List Nat := (p.membersOf area).keys

def countIn (p : Presence) (area : Nat) : Nat := (p.membersOf area).size

/-- The sets after a client left an area's set; an empty set is dropped. -/
def withdraw (sets : Table Nat Members) (area client : Nat) : Table Nat Members :=
  match sets.find? area with
  | none => sets
  | some members =>
    let rest := members.erase client
    if rest.isEmpty then sets.erase area else sets.insert area rest

/-- Moves a client into an area, out of any other. -/
def join (p : Presence) (area client : Nat) : Presence :=
  let sets :=
    match p.areaOf client with
    | none => p.byArea
    | some old => if old = area then p.byArea else withdraw p.byArea old client
  { byArea := sets.insert area (((sets.find? area).getD ∅).insert client ())
    byClient := p.byClient.insert client area }

def leave (p : Presence) (client : Nat) : Presence :=
  match p.areaOf client with
  | none => p
  | some area =>
    { byArea := withdraw p.byArea area client
      byClient := p.byClient.erase client }

/-- What can be asked for a client: that it goes to an area, or that it goes away. -/
inductive Move
  | join (area client : Nat)
  | leave (client : Nat)
deriving Repr, DecidableEq

def Move.client : Move → Nat
  | join _ client => client
  | leave client => client

/-- Makes a move. The answer is the area that the client had before. -/
def make (p : Presence) : Move → Option Nat × Presence
  | .join area client => (p.byClient.find? client, p.join area client)
  | .leave client => (p.byClient.find? client, p.leave client)

/-- Makes moves in order. -/
def makeAll (p : Presence) (moves : List Move) : Presence :=
  moves.foldl (fun p move => (p.make move).2) p

@[simp] theorem areaOf_join (p : Presence) (area client i : Nat) :
    (p.join area client).areaOf i = if i = client then some area else p.areaOf i := by
  simp [join, areaOf]

@[simp] theorem areaOf_leave (p : Presence) (client i : Nat) :
    (p.leave client).areaOf i = if i = client then none else p.areaOf i := by
  unfold leave
  split
  next h =>
    split
    next hi => rw [hi, h]
    next => rfl
  next => simp [areaOf]

end Presence
end CourtroomGateway.Court
