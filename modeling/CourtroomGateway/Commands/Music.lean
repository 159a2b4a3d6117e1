import CourtroomGateway.Commands.Rule

/-! The music list, which offers areas and tracks. A name that an area has moves the client
there; the name of a track plays it in the client's area, unless the client only watches. -/

namespace CourtroomGateway.Commands

inductive MusicAct
  | stay
  | move (index : Nat) (area : Area)
  | play (area : Nat) (track showname : String)
deriving Repr, DecidableEq

namespace Music

def decide (s : Scene) (p : Wire.Packet) : Except Refusal MusicAct :=
  match p.args with
  | [] => .error .musicNameMissing
  | raw :: _ =>
    let name := Wire.unescape raw
    match s.hall.config.areaIndex? name with
    | some index =>
      if s.client.area = some index then .ok .stay
      else
        match s.hall.config.areas[index]? with
        | none => .error (.noSuchArea index)
        | some area => .ok (.move index area)
    | none =>
      if name ∉ s.hall.config.music then .error (.unknownMusic name)
      else
        match s.client.area with
        | none => .error .musicOutside
        | some area =>
          if s.client.isSpectator then .error .musicSpectating
          else .ok (.play area name (p.args[2]?.getD ""))

def perform : MusicAct → Scene → Scene
  | .stay, s => s
  | .move index area, s => s.enter index area []
  | .play area track showname, s =>
    let packet := ((Wire.Packet.named "MC").text track).int s.client.charId
    { s with hall := s.hall.publishLossy area (packet.arg showname) }

end Music

def music : Rule MusicAct where
  decide := Music.decide
  perform := Music.perform

end CourtroomGateway.Commands
