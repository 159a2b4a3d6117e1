import CourtroomGateway.Client
import CourtroomGateway.Config.Basic
import CourtroomGateway.Court.Delivery
import CourtroomGateway.Metrics.Page
import CourtroomGateway.Wire.Packet

/-! The hall: what every session shares. The clock counts milliseconds and moves while a delivery
waits. -/

namespace CourtroomGateway

structure Hall where
  config : Config
  court : Court := {}
  metrics : Metrics := {}
  clock : Nat := 0

namespace Hall

/-- An empty hall under a configuration that breaks no rule. -/
def ofConfig (config : Config) : Except ConfigFault Hall :=
  config.validate.map fun config => { config }

def players (h : Hall) : Nat := h.court.roster.size

/-- Admits a client without a greeting. -/
def enrol (h : Hall) (capacity : Nat) (transport : Transport) : Client × Hall :=
  ({ id := h.court.roster.nextId, transport, lastKeepalive := h.clock },
    { h with court := h.court.connect capacity })

def publishLossy (h : Hall) (area : Nat) (p : Wire.Packet) : Hall :=
  { h with court := h.court.publishLossy area p.toWire }

def publishReliable (h : Hall) (area : Nat) (p : Wire.Packet) (timeout : Nat)
    (origin : Option Nat) : Hall :=
  let d := h.court.publishReliable area p.toWire timeout origin
  { h with court := d.court, clock := h.clock + d.waited }

/-- The client was not heard from for as long as the configuration allows. -/
def keepaliveExpired (h : Hall) (c : Client) : Bool :=
  h.config.server.keepaliveTimeout ≤ h.clock - c.lastKeepalive

/-- The samples that are counted when they are asked for. -/
def samples (h : Hall) : List (String × Nat) :=
  let area (i : Nat) (a : Area) :=
    let name := String.ofList (a.name.toList.filter (· ≠ '"'))
    ("aoprism_area_players\x7barea=\"" ++ name ++ "\"\x7d", h.court.presence.countIn i)
  ("aoprism_players", h.players) :: h.config.areas.mapIdx area

def metricsPage (h : Hall) : String := h.metrics.page h.samples

end Hall

end CourtroomGateway
