import CourtroomGateway.Fault
import CourtroomGateway.Text.Blank

/-! The configuration: the characters and music on offer, the areas with their evidence, and the
limits of the service. `fault?` finds the first rule that a configuration breaks; `validate`
accepts exactly the configurations that break none. -/

namespace CourtroomGateway

structure Evidence where
  name : String
  description : String := ""
  image : String := "empty.png"
deriving Repr, DecidableEq

structure Area where
  name : String
  background : String := "default"
  evidence : List Evidence := []
deriving Repr, DecidableEq

structure Service where
  name : String := "aoPrism"
  description : String := ""
  tcpListen : String := "0.0.0.0:27016"
  wsListen : String := "0.0.0.0:27017"
  maxPlayers : Nat := 100
  /-- In milliseconds. -/
  keepaliveTimeout : Nat := 180000
  maxBuffer : Nat := 1024
  motd : Option String := none
deriving Repr, DecidableEq

/-- Messages per second in the long run, and how many may come at once. -/
structure Allowance where
  rate : UInt32 := 10
  burst : UInt32 := 20
deriving Repr, DecidableEq

structure Config where
  version : Nat
  server : Service := {}
  flood : Allowance := {}
  /-- Folder names; the position is the character's id. -/
  characters : List String
  music : List String := []
  areas : List Area
deriving Repr, DecidableEq

inductive ConfigFault
  | version
  | noCharacters
  | blankCharacter
  | noAreas
  | blankArea
  | duplicateArea (name : String)
  | noPlayers
  | keepaliveRange
  | bufferRange
  | noAllowance
  /-- The text is not a configuration. -/
  | malformed
  /-- The text could not be had, for a reason the outside gives. -/
  | unreadable (reason : String)
deriving Repr, DecidableEq

def ConfigFault.toFault : ConfigFault → Fault
  | version => .unsupportedVersion
  | noCharacters => .badRequest "characters must not be empty"
  | blankCharacter => .badRequest "character names must not be blank"
  | noAreas => .badRequest "areas must not be empty"
  | blankArea => .badRequest "area names must not be blank"
  | duplicateArea name => .badRequest ("duplicate area name: " ++ name)
  | noPlayers => .badRequest "server.max_players must be at least 1"
  | keepaliveRange => .badRequest "server.keepalive_timeout_ms must be between 10000 and 600000"
  | bufferRange => .badRequest "server.max_buffer_bytes must be between 256 and 65536"
  | noAllowance => .badRequest "flood.rps and flood.burst must be positive"
  | malformed => .badRequest "invalid yaml"
  | unreadable reason => .internal ("read config failed: " ++ reason)

/-- The first area whose name is blank or was given to an area before it. -/
def areaFault? (seen : List String) : List Area → Option ConfigFault
  | [] => none
  | area :: areas =>
    if Text.isBlankText area.name then some .blankArea
    else if area.name ∈ seen then some (.duplicateArea area.name)
    else areaFault? (area.name :: seen) areas

namespace Service

def fault? (s : Service) : Option ConfigFault :=
  if s.maxPlayers = 0 then some .noPlayers
  else if s.keepaliveTimeout < 10000 ∨ 600000 < s.keepaliveTimeout then some .keepaliveRange
  else if s.maxBuffer < 256 ∨ 65536 < s.maxBuffer then some .bufferRange
  else none

end Service

def Allowance.fault? (a : Allowance) : Option ConfigFault :=
  if a.rate = 0 ∨ a.burst = 0 then some .noAllowance else none

namespace Config

def fault? (c : Config) : Option ConfigFault :=
  if c.version ≠ 1 then some .version
  else if c.characters = [] then some .noCharacters
  else if c.characters.any Text.isBlankText then some .blankCharacter
  else if c.areas = [] then some .noAreas
  else (areaFault? [] c.areas).or (c.server.fault?.or c.flood.fault?)

/-- The configuration itself, if it breaks no rule. -/
def validate (c : Config) : Except ConfigFault Config :=
  match c.fault? with
  | some fault => .error fault
  | none => .ok c

theorem validate_eq_ok_iff {c d : Config} : c.validate = .ok d ↔ c.fault? = none ∧ c = d := by
  unfold validate
  split <;> simp_all

/-- The first area of this name. -/
def areaIndex? (c : Config) (name : String) : Option Nat :=
  c.areas.findIdx? fun a => a.name = name

def character? (c : Config) (id : Int64) : Option String :=
  if id < 0 then none else c.characters[id.toInt.toNat]?

end Config
end CourtroomGateway
