/-! The dialects of in-character speech. The command carries no version: each client generation
sends its own ordered field list, and the six lists differ in length. The table is ordered from
the longest list to the shortest. -/

namespace CourtroomGateway.Speech

inductive Dialect
  | kfo | aoGolden | v28 | v26 | dro | pre26
deriving Repr, DecidableEq

inductive Field
  | msgType | pre | folder | anim | text | pos | sfx | emoteMod | cid | sfxDelay | button
  | evidence | flip | ding | color | showname | charidPair | offsetPair | nonintPre
  | sfxLooping | screenshake | framesShake | framesRealization | framesSfx | additive | effect
  | thirdCharid | video | hideCharacter
deriving Repr, DecidableEq

/-- What an argument has to look like: text that is not empty, any text, a number, or the number
of a button, which is read as any other number. -/
inductive Kind
  | filled | free | number | button
deriving Repr, DecidableEq

namespace Dialect

def all : List Dialect := [kfo, aoGolden, v28, v26, dro, pre26]

def name : Dialect → String
  | kfo => "kfo"
  | aoGolden => "ao_golden"
  | v28 => "v28"
  | v26 => "v26"
  | dro => "dro"
  | pre26 => "pre26"

def ofName? (s : String) : Option Dialect := all.find? fun d => d.name = s

theorem mem_all (d : Dialect) : d ∈ all := by cases d <;> decide

theorem ofName?_name (d : Dialect) : ofName? d.name = some d := by cases d <;> decide

end Dialect

namespace Field

/-- The fields in declaration order. -/
def all : List Field :=
  [msgType, pre, folder, anim, text, pos, sfx, emoteMod, cid, sfxDelay, button, evidence, flip,
    ding, color, showname, charidPair, offsetPair, nonintPre, sfxLooping, screenshake,
    framesShake, framesRealization, framesSfx, additive, effect, thirdCharid, video,
    hideCharacter]

def name : Field → String
  | msgType => "msg_type"
  | pre => "pre"
  | folder => "folder"
  | anim => "anim"
  | text => "text"
  | pos => "pos"
  | sfx => "sfx"
  | emoteMod => "emote_mod"
  | cid => "cid"
  | sfxDelay => "sfx_delay"
  | button => "button"
  | evidence => "evidence"
  | flip => "flip"
  | ding => "ding"
  | color => "color"
  | showname => "showname"
  | charidPair => "charid_pair"
  | offsetPair => "offset_pair"
  | nonintPre => "nonint_pre"
  | sfxLooping => "sfx_looping"
  | screenshake => "screenshake"
  | framesShake => "frames_shake"
  | framesRealization => "frames_realization"
  | framesSfx => "frames_sfx"
  | additive => "additive"
  | effect => "effect"
  | thirdCharid => "third_charid"
  | video => "video"
  | hideCharacter => "hide_character"

theorem mem_all (f : Field) : f ∈ all := by cases f <;> decide

end Field

def Kind.isNumber : Kind → Bool
  | filled | free => false
  | number | button => true

abbrev Layout := List (Field × Kind)

namespace Dialect

/-- The fifteen fields that every dialect starts with. -/
def base : Layout :=
  [(.msgType, .filled), (.pre, .free), (.folder, .filled), (.anim, .filled), (.text, .free),
    (.pos, .filled), (.sfx, .filled), (.emoteMod, .number), (.cid, .number), (.sfxDelay, .number),
    (.button, .button), (.evidence, .number), (.flip, .number), (.ding, .number),
    (.color, .number)]

/-- The eleven fields that the 2.8 generation and its successors add. -/
def effects : Layout :=
  [(.showname, .free), (.charidPair, .filled), (.offsetPair, .free), (.nonintPre, .number),
    (.sfxLooping, .free), (.screenshake, .number), (.framesShake, .free),
    (.framesRealization, .free), (.framesSfx, .free), (.additive, .number),
    (.effect, .free)]

def extension : Dialect → Layout
  | kfo => effects ++ [(.thirdCharid, .number), (.video, .free)]
  | aoGolden => effects ++ [(.thirdCharid, .number)]
  | v28 => effects
  | v26 =>
    [(.showname, .free), (.charidPair, .number), (.offsetPair, .number), (.nonintPre, .number)]
  | dro => [(.showname, .free), (.video, .free), (.hideCharacter, .number)]
  | pre26 => []

def layout (d : Dialect) : Layout := base ++ d.extension

/-- The partner field may carry an order after its id. -/
def ordersPair : Dialect → Bool
  | kfo | aoGolden | v28 => true
  | v26 | dro | pre26 => false

/-- The realization flag is read as one or nothing. -/
def clampsDing : Dialect → Bool
  | dro => true
  | _ => false

theorem length_layout (d : Dialect) :
    d.layout.length = match d with
      | kfo => 28
      | aoGolden => 27
      | v28 => 26
      | v26 => 19
      | dro => 18
      | pre26 => 15 := by
  cases d <;> rfl

theorem length_layout_injective {d e : Dialect} (h : d.layout.length = e.layout.length) :
    d = e := by
  revert h
  cases d <;> cases e <;> decide

end Dialect
end CourtroomGateway.Speech
