import CourtroomGateway.Metrics.Label
import CourtroomGateway.Speech.Dialect

/-! Clients: what a session knows of the one client it serves. Others see of it what the court
holds; the character and the area stand in both places. -/

namespace CourtroomGateway

inductive Transport
  | tcp | ws
deriving Repr, DecidableEq

def Transport.name : Transport → String
  | tcp => "tcp"
  | ws => "ws"

def Transport.label (t : Transport) : Metrics.Label := ⟨"transport", t.name⟩

structure Client where
  id : Nat
  transport : Transport
  hardwareId : Option String := none
  /-- The client's software and its version. -/
  software : Option (String × String) := none
  /-- The character held, `-1` for a spectator. -/
  charId : Int64 := -1
  area : Option Nat := none
  /-- The dialect that the client last spoke. -/
  dialect : Option Speech.Dialect := none
  lastKeepalive : Nat
deriving Repr, DecidableEq

def Client.isSpectator (c : Client) : Bool := c.charId < 0

end CourtroomGateway
