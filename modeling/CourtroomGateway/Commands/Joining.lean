import CourtroomGateway.Commands.Rule

/-! Joining: a client names its hardware and its software, asks for the lists of characters and
music, enters the first area, and from then on reports that it is alive. -/

namespace CourtroomGateway.Commands

def software : String := "aoprism"

def softwareVersion : String := "0.1.0"

def features : List String :=
  ["noencryption", "yellowtext", "prezoom", "flipping", "customobjections", "fastloading",
    "deskmod", "evidence", "cccc_ic_support", "arup", "looping_sfx", "additive", "effects",
    "y_offset", "expanded_desk_mods"]

inductive JoiningAct
  | greet (hardwareId : String)
  | identify (software version : String)
  | counts
  | characters
  | music
  | enter (area : Area)
  | keepAlive
deriving Repr, DecidableEq

namespace Joining

def decide (s : Scene) (p : Wire.Packet) : Except Refusal JoiningAct :=
  match p.command with
  | "HI" =>
    match p.args with
    | hardwareId :: _ =>
      if Text.isBlankText hardwareId then .error .hardwareIdMissing else .ok (.greet hardwareId)
    | [] => .error .hardwareIdMissing
  | "ID" => .ok (.identify (p.args[0]?.getD "") (p.args[1]?.getD ""))
  | "askchaa" => .ok .counts
  | "RC" => .ok .characters
  | "RM" => .ok .music
  | "RD" =>
    match s.hall.config.areas with
    | area :: _ => .ok (.enter area)
    | [] => .error .noAreas
  | "CH" => .ok .keepAlive
  | command => .error (.notPartOfJoining command)

/-- What a client is told after it named its hardware. -/
def greeting (s : Scene) : List Wire.Packet :=
  let server := s.hall.config.server
  let id := ((Wire.Packet.named "ID").nat s.client.id).arg software
  let players := ((Wire.Packet.named "PN").nat s.hall.players).nat server.maxPlayers
  let welcome :=
    match server.motd with
    | none => []
    | some motd => [(((Wire.Packet.named "CT").text server.name).text motd).nat 1]
  [id.arg softwareVersion, players.text server.description, { command := "FL", args := features }]
    ++ welcome

/-- The number of characters, and of areas and tracks together. -/
def countPacket (c : Config) : Wire.Packet :=
  (((Wire.Packet.named "SI").nat c.characters.length).nat 0).nat (c.areas.length + c.music.length)

def castPacket (c : Config) : Wire.Packet := (Wire.Packet.named "SC").texts c.characters

/-- The areas by name, and then the tracks. -/
def musicPacket (c : Config) : Wire.Packet :=
  ((Wire.Packet.named "SM").texts (c.areas.map (·.name))).texts c.music

def perform : JoiningAct → Scene → Scene
  | .greet hardwareId, s =>
    { s with client := { s.client with hardwareId := some hardwareId } }.replyAll (greeting s)
  | .identify software version, s =>
    { s with client := { s.client with software := some (software, version) } }
  | .counts, s => s.reply (countPacket s.hall.config)
  | .characters, s => s.reply (castPacket s.hall.config)
  | .music, s => s.reply (musicPacket s.hall.config)
  | .enter area, s => s.enter 0 area [.named "DONE"]
  | .keepAlive, s =>
    { s with client := { s.client with lastKeepalive := s.hall.clock } }.reply (.named "CHECK")

end Joining

def joining : Rule JoiningAct where
  decide := Joining.decide
  perform := Joining.perform

end CourtroomGateway.Commands
