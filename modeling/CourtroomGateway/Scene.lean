import CourtroomGateway.Hall

/-! Scenes: a hall with the client whose turn it is. A client answers to its own mailbox, and
changes its character or its area in the court and for itself at once. -/

namespace CourtroomGateway

structure Scene where
  hall : Hall
  client : Client

namespace Scene

/-- Puts a packet into the client's own mailbox. -/
def reply (s : Scene) (p : Wire.Packet) : Scene :=
  { s with hall := { s.hall with court := s.hall.court.post s.client.id p.toWire } }

def replyAll (s : Scene) (ps : List Wire.Packet) : Scene := ps.foldl reply s

/-- Sets the client's character, in the roster and for the client. -/
def setCharacter (s : Scene) (charId : Int64) (pose : Speech.Pose) : Scene where
  hall :=
    { s.hall with
      court :=
        { s.hall.court with
          roster := s.hall.court.roster.setCharacter s.client.id charId pose } }
  client := { s.client with charId }

/-- The packet that tells a client its character. -/
def characterPacket (s : Scene) : Wire.Packet :=
  (((Wire.Packet.named "PV").nat s.client.id).arg "CID").int s.client.charId

/-- Another client of the area holds the character. -/
def taken (s : Scene) (area : Nat) (charId : Int64) : Bool :=
  s.hall.court.roster.taken (s.hall.court.presence.clientsIn area) charId s.client.id

/-- Takes the character away from a client who is about to enter an area where another one
holds it. -/
def releaseIfTaken (s : Scene) (area : Nat) : Scene :=
  if s.client.isSpectator then s
  else if s.taken area s.client.charId then
    let s := s.setCharacter (-1) {}
    s.reply s.characterPacket
  else s

/-- Moves the client into an area, in presence and for the client. -/
def join (s : Scene) (area : Nat) : Scene where
  hall :=
    { s.hall with
      court := { s.hall.court with presence := s.hall.court.presence.join area s.client.id } }
  client := { s.client with area := some area }

def areaPackets (a : Area) : List Wire.Packet :=
  let evidence (p : Wire.Packet) (e : Evidence) := p.tuple [e.name, e.description, e.image]
  [(Wire.Packet.named "BN").text a.background,
    a.evidence.foldl evidence (.named "LE")]

/-- Brings the client into an area: a character held there is released first, and the area's
contents follow. -/
def enter (s : Scene) (index : Nat) (area : Area) (lead : List Wire.Packet) : Scene :=
  ((s.releaseIfTaken index).join index).replyAll (lead ++ areaPackets area)

end Scene
end CourtroomGateway
