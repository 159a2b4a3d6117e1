import CourtroomGateway.Speech.Dialect
import CourtroomGateway.Text.Integer

/-! The in-character message, one record for every dialect. A field that a dialect does not send
keeps its default. Reading goes field by field, and so does writing: `render` lists the values
of a layout's fields in wire form. -/

namespace CourtroomGateway.Speech

structure Message where
  dialect : Dialect
  msgType : String := ""
  pre : String := ""
  folder : String := ""
  anim : String := ""
  text : String := ""
  pos : String := ""
  sfx : String := ""
  emoteMod : Int64 := 0
  cid : Int64 := 0
  sfxDelay : Int64 := 0
  button : Int64 := 0
  evidence : Int64 := 0
  flip : Int64 := 0
  ding : Int64 := 0
  color : Int64 := 0
  showname : String := ""
  /-- The declared partner's character, `-1` for none. -/
  charidPair : Int64 := -1
  /-- The order after the partner's id, where one was sent. -/
  pairOrder : Option String := none
  offsetPair : String := "0"
  nonintPre : Int64 := 0
  sfxLooping : String := "0"
  screenshake : Int64 := 0
  framesShake : String := ""
  framesRealization : String := ""
  framesSfx : String := ""
  additive : Int64 := 0
  effect : String := ""
  /-- The declared second partner's character, `-1` for none. -/
  thirdCharid : Int64 := -1
  video : String := ""
  hideCharacter : Int64 := 0
deriving Repr, DecidableEq

namespace Message

def empty (d : Dialect) : Message := { dialect := d }

/-- The order on the wire, `0` when none was sent. -/
def wireOrder (m : Message) : String := m.pairOrder.getD "0"

/-- The emote modifiers that change what the character shows. -/
def committing : List Int64 := [0, 1, 2, 5, 6]

def commitsPose (m : Message) : Bool := committing.contains m.emoteMod

/-- The partner field as `id` or `id^order`. -/
def declaredPair (m : Message) : String :=
  match m.pairOrder with
  | none => Text.decimal m.charidPair
  | some order => Text.decimal m.charidPair ++ "^" ++ order

def wireValue (m : Message) : Field → String
  | .msgType => m.msgType
  | .pre => m.pre
  | .folder => m.folder
  | .anim => m.anim
  | .text => m.text
  | .pos => m.pos
  | .sfx => m.sfx
  | .emoteMod => Text.decimal m.emoteMod
  | .cid => Text.decimal m.cid
  | .sfxDelay => Text.decimal m.sfxDelay
  | .button => Text.decimal m.button
  | .evidence => Text.decimal m.evidence
  | .flip => Text.decimal m.flip
  | .ding => Text.decimal m.ding
  | .color => Text.decimal m.color
  | .showname => m.showname
  | .charidPair => if m.dialect.ordersPair then m.declaredPair else Text.decimal m.charidPair
  | .offsetPair => m.offsetPair
  | .nonintPre => Text.decimal m.nonintPre
  | .sfxLooping => m.sfxLooping
  | .screenshake => Text.decimal m.screenshake
  | .framesShake => m.framesShake
  | .framesRealization => m.framesRealization
  | .framesSfx => m.framesSfx
  | .additive => Text.decimal m.additive
  | .effect => m.effect
  | .thirdCharid => Text.decimal m.thirdCharid
  | .video => m.video
  | .hideCharacter => Text.decimal m.hideCharacter

/-- The arguments that a client of the message's dialect would send. -/
def render (m : Message) : List String := m.dialect.layout.map fun slot => m.wireValue slot.1

theorem length_render (m : Message) : m.render.length = m.dialect.layout.length :=
  List.length_map _

end Message
end CourtroomGateway.Speech
