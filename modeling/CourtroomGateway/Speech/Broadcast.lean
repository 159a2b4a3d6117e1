import CourtroomGateway.Speech.Pairing
import CourtroomGateway.Wire.Packet

/-! The broadcast form of an in-character message: one layout of thirty-six arguments for every
recipient, whatever the speaker's dialect. The confirmed partners' poses stand beside the
fields that name them. -/

namespace CourtroomGateway.Speech

/-- The folder, animation, offset and flip of a partner slot, or their defaults. -/
def companionColumns : Option Companion → String × String × String × String
  | some c => (c.folder, c.anim, c.offset, Text.decimal c.flip)
  | none => ("", "", "0", "0")

def Message.broadcastArgs (m : Message) (p : Pairing) : List String :=
  let (folder, anim, offset, flip) := companionColumns p.primary
  let (thirdFolder, thirdAnim, thirdOffset, thirdFlip) := companionColumns p.third
  [m.msgType, m.pre, m.folder, m.anim, m.text, m.pos, m.sfx,
    Text.decimal m.emoteMod, Text.decimal m.cid, Text.decimal m.sfxDelay, Text.decimal m.button,
    Text.decimal m.evidence, Text.decimal m.flip, Text.decimal m.ding, Text.decimal m.color,
    m.showname, p.charidPair, folder, anim, m.offsetPair, offset, flip,
    Text.decimal m.nonintPre, m.sfxLooping, Text.decimal m.screenshake,
    m.framesShake, m.framesRealization, m.framesSfx, Text.decimal m.additive, m.effect,
    Text.decimal p.thirdCharid, thirdFolder, thirdAnim, thirdOffset, thirdFlip, m.video]

def Message.broadcast (m : Message) (p : Pairing) : Wire.Packet where
  command := "MS"
  args := m.broadcastArgs p

@[simp] theorem length_broadcastArgs (m : Message) (p : Pairing) :
    (m.broadcastArgs p).length = 36 := rfl

end CourtroomGateway.Speech
