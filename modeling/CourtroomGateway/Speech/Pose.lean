import CourtroomGateway.Speech.Message

/-! Poses: what a client last showed, together with the partners it declared then. Others read
a pose as a whole when they look for a partner. -/

namespace CourtroomGateway.Speech

structure Pose where
  folder : String := ""
  anim : String := ""
  pre : String := ""
  flip : Int64 := 0
  offset : String := "0"
  pos : String := ""
  pairTarget : Int64 := -1
  thirdTarget : Int64 := -1
deriving Repr, DecidableEq, Inhabited

namespace Pose

/-- The pose of a character that was just picked and has not spoken. -/
def idle (folder : String) : Pose := { folder }

def ofMessage (m : Message) : Pose where
  folder := m.folder
  anim := m.anim
  pre := m.pre
  flip := m.flip
  offset := m.offsetPair
  pos := m.pos
  pairTarget := m.charidPair
  thirdTarget := m.thirdCharid

/-- The pose declares this character as a partner, in either slot. -/
def declares (p : Pose) (charId : Int64) : Bool :=
  p.pairTarget = charId || p.thirdTarget = charId

end Pose
end CourtroomGateway.Speech
