import CourtroomGateway.Speech.Message
import CourtroomGateway.Text.Quoted

/-! Reading an in-character message from its arguments. The dialect is the one whose layout is
as long as the argument list; every argument has to be of its kind, and where the partner field
carries an order its id has to be a number. -/

namespace CourtroomGateway.Speech

inductive DecodeError
  /-- No dialect has this many arguments, or the one that has them refuses one of them. -/
  | noDialect (arguments : Nat)
  /-- The partner field does not start with a number. -/
  | badPairId (raw : String)
deriving Repr, DecidableEq

namespace DecodeError

def message : DecodeError → String
  | noDialect n => "no dialect matches " ++ Text.decimalNat n ++ " arguments"
  | badPairId raw => "charid_pair " ++ Text.quoted raw ++ " has a non-integer id"

/-- The short label that counts this error. -/
def reason : DecodeError → String
  | noDialect _ => "no_dialect"
  | badPairId _ => "bad_pair_id"

end DecodeError

def Kind.accepts : Kind → String → Bool
  | .filled, raw => raw ≠ ""
  | .free, _ => true
  | .number, raw | .button, raw => (Text.integer? raw).isSome

/-- The part before the first `^`, and the part between the first two when it is not empty. -/
def splitPair (raw : String) : String × Option String :=
  match raw.toList.splitOn '^' with
  | id :: order :: _ =>
    (String.ofList id, if order.isEmpty then none else some (String.ofList order))
  | id :: [] => (String.ofList id, none)
  | [] => ("", none)

namespace Message

def readInt (raw : String) (fallback : Int64) : Int64 := (Text.integer? raw).getD fallback

/-- The message with one field read from an argument of the given kind. -/
def read (m : Message) (slot : Field × Kind) (raw : String) : Message :=
  match slot.1 with
  | .msgType => { m with msgType := raw }
  | .pre => { m with pre := raw }
  | .folder => { m with folder := raw }
  | .anim => { m with anim := raw }
  | .text => { m with text := raw }
  | .pos => { m with pos := raw }
  | .sfx => { m with sfx := raw }
  | .emoteMod => { m with emoteMod := readInt raw m.emoteMod }
  | .cid => { m with cid := readInt raw m.cid }
  | .sfxDelay => { m with sfxDelay := readInt raw m.sfxDelay }
  | .button => { m with button := readInt raw m.button }
  | .evidence => { m with evidence := readInt raw m.evidence }
  | .flip => { m with flip := readInt raw m.flip }
  | .ding => { m with ding := readInt raw m.ding }
  | .color => { m with color := readInt raw m.color }
  | .showname => { m with showname := raw }
  | .charidPair =>
    if m.dialect.ordersPair then
      let (id, order) := splitPair raw
      { m with charidPair := readInt id m.charidPair, pairOrder := order }
    else { m with charidPair := readInt raw m.charidPair }
  | .offsetPair =>
    if slot.2.isNumber then
      { m with offsetPair := ((Text.integer? raw).map Text.decimal).getD m.offsetPair }
    else { m with offsetPair := raw }
  | .nonintPre => { m with nonintPre := readInt raw m.nonintPre }
  | .sfxLooping => { m with sfxLooping := raw }
  | .screenshake => { m with screenshake := readInt raw m.screenshake }
  | .framesShake => { m with framesShake := raw }
  | .framesRealization => { m with framesRealization := raw }
  | .framesSfx => { m with framesSfx := raw }
  | .additive => { m with additive := readInt raw m.additive }
  | .effect => { m with effect := raw }
  | .thirdCharid => { m with thirdCharid := readInt raw m.thirdCharid }
  | .video => { m with video := raw }
  | .hideCharacter => { m with hideCharacter := readInt raw m.hideCharacter }

def readAll (d : Dialect) (args : List String) : Message :=
  (d.layout.zip args).foldl (fun m e => m.read e.1 e.2) (empty d)

def clampDing (m : Message) : Message :=
  if m.dialect.clampsDing then { m with ding := if m.ding = 1 then 1 else 0 } else m

end Message

namespace Dialect

/-- The layout has one argument per field, each of its kind. -/
def fits (d : Dialect) (args : List String) : Bool :=
  d.layout.length = args.length && (d.layout.zip args).all fun e => e.1.2.accepts e.2

def argument? (d : Dialect) (f : Field) (args : List String) : Option String :=
  ((d.layout.zip args).find? fun e => e.1.1 = f).map (·.2)

/-- The partner field whose id is not a number, if that is what is wrong with the arguments. -/
def badPair? (d : Dialect) (args : List String) : Option String :=
  if d.ordersPair then
    (d.argument? .charidPair args).filter fun raw => (Text.integer? (splitPair raw).1).isNone
  else none

end Dialect

/-- Tries the dialects in turn and keeps the first that fits. -/
def decodeWith (dialects : List Dialect) (args : List String) : Except DecodeError Message :=
  match dialects.find? fun d => d.fits args with
  | none => .error (.noDialect args.length)
  | some d =>
    match d.badPair? args with
    | some raw => .error (.badPairId raw)
    | none => .ok (Message.readAll d args).clampDing

def decode (args : List String) : Except DecodeError Message := decodeWith Dialect.all args

end CourtroomGateway.Speech
