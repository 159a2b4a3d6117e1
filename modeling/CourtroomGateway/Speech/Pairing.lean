import CourtroomGateway.Speech.Pose

/-! Pairing. A declared partner is confirmed when it is mutual and stands in the same place: the
partner's pose declares the speaker's character and has the message's position. The candidates
are the other clients of the area, and the first that qualifies is taken. -/

namespace CourtroomGateway.Speech

structure Speaker where
  clientId : Nat
  charId : Int64
deriving Repr, DecidableEq

structure Candidate where
  clientId : Nat
  charId : Int64
  pose : Pose
deriving Repr, DecidableEq

/-- What the broadcast shows of a confirmed partner. -/
structure Companion where
  clientId : Nat
  charId : Int64
  folder : String
  anim : String
  offset : String
  flip : Int64
deriving Repr, DecidableEq

def Companion.of (c : Candidate) : Companion where
  clientId := c.clientId
  charId := c.charId
  folder := c.pose.folder
  anim := c.pose.anim
  offset := c.pose.offset
  flip := c.pose.flip

structure Pairing where
  primary : Option Companion
  third : Option Companion
  /-- The partner as broadcast: `-1`, `id` or `id^order`. -/
  charidPair : String
  thirdCharid : Int64
deriving Repr, DecidableEq

def Pairing.unpaired : Pairing where
  primary := none
  third := none
  charidPair := "-1"
  thirdCharid := -1

/-- The candidate may fill the slot of a speaker who declares `target` at `pos`. -/
def Candidate.eligible (c : Candidate) (me : Speaker) (pos : String) (target : Int64) : Bool :=
  0 ≤ target && c.clientId ≠ me.clientId && c.charId = target && c.pose.pos = pos &&
    c.pose.declares me.charId

def findCompanion (target : Int64) (me : Speaker) (pos : String) (cs : List Candidate) :
    Option Companion :=
  (cs.find? fun c => c.eligible me pos target).map Companion.of

def Message.pair (m : Message) (me : Speaker) (cs : List Candidate) : Pairing :=
  if me.charId < 0 then .unpaired
  else
    let primary := findCompanion m.charidPair me m.pos cs
    let third :=
      if m.thirdCharid = m.charidPair then none
      else findCompanion m.thirdCharid me m.pos cs
    { primary
      third
      charidPair :=
        match primary, m.pairOrder with
        | some c, some order => Text.decimal c.charId ++ "^" ++ order
        | some c, none => Text.decimal c.charId
        | none, _ => "-1"
      thirdCharid := (third.map (·.charId)).getD (-1) }

end CourtroomGateway.Speech
