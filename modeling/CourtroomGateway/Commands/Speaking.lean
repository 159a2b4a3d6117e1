import CourtroomGateway.Commands.Rule
import CourtroomGateway.Speech.Broadcast
import CourtroomGateway.Speech.Decoder

/-! Speaking in character. A message that cannot be read is counted and dropped; one that its
sender may not send is counted and kept to oneself. The others are paired against the area as it
is, and go to everyone there in the broadcast form. Nothing here is refused. -/

namespace CourtroomGateway.Commands

/-- The longest text that is passed on, in characters. -/
def longestText : Nat := 256

/-- How long a recipient may take to make room, in milliseconds. -/
def speechTimeout : Nat := 1500

inductive SpeakingAct
  | unread (error : Speech.DecodeError)
  | silent (message : Speech.Message)
  | spoken (area : Nat) (message : Speech.Message)
deriving Repr, DecidableEq

namespace Speaking

/-- The client holds the character it speaks for, and the text is not too long. -/
def permits (c : Client) (m : Speech.Message) : Bool :=
  !c.isSpectator && m.cid = c.charId && m.text.length ≤ longestText

def judge (s : Scene) (p : Wire.Packet) : SpeakingAct :=
  match Speech.decode p.args with
  | .error e => .unread e
  | .ok m =>
    match s.client.area with
    | none => .silent m
    | some area => if permits s.client m then .spoken area m else .silent m

/-- Counts a message that was read, and remembers its dialect. -/
def note (s : Scene) (m : Speech.Message) : Scene where
  hall :=
    { s.hall with
      metrics :=
        { s.hall.metrics with
          decoded := s.hall.metrics.decoded.inc [⟨"dialect", m.dialect.name⟩] } }
  client := { s.client with dialect := some m.dialect }

def pairing (s : Scene) (area : Nat) (m : Speech.Message) : Speech.Pairing :=
  m.pair ⟨s.client.id, s.client.charId⟩ (s.hall.court.candidates area s.client.id)

/-- Shows the message's pose as the client's own, if the message changes what is shown. -/
def commitPose (s : Scene) (m : Speech.Message) : Scene :=
  if m.commitsPose then
    { s with
      hall :=
        { s.hall with
          court :=
            { s.hall.court with
              roster := s.hall.court.roster.setPose s.client.id (.ofMessage m) } } }
  else s

def perform : SpeakingAct → Scene → Scene
  | .unread e, s =>
    { s with
      hall :=
        { s.hall with
          metrics :=
            { s.hall.metrics with
              decodeFailures := s.hall.metrics.decodeFailures.inc [⟨"reason", e.reason⟩] } } }
  | .silent m, s => note s m
  | .spoken area m, s =>
    let packet := m.broadcast (pairing s area m)
    let s := commitPose (note s m) m
    { s with hall := s.hall.publishReliable area packet speechTimeout (some s.client.id) }

end Speaking

def speaking : Rule SpeakingAct where
  decide s p := .ok (Speaking.judge s p)
  perform := Speaking.perform

end CourtroomGateway.Commands
