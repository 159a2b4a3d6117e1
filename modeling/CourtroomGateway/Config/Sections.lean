import CourtroomGateway.Config.Basic
import CourtroomGateway.Config.Node

/-! The sections of a configuration document: which fields each one has and where they go. -/

namespace CourtroomGateway.Config

def evidenceSection : Section Evidence where
  fields := ["name", "description", "image"]
  required := ["name"]
  blank := { name := "" }
  set field n e :=
    match field with
    | "name" => return { e with name := ← n.text }
    | "description" => return { e with description := ← n.text }
    | "image" => return { e with image := ← n.text }
    | _ => return e

def areaSection (positional : Bool) : Section Area where
  fields := ["name", "background", "evidence"]
  required := ["name"]
  blank := { name := "" }
  set field n a :=
    match field with
    | "name" => return { a with name := ← n.text }
    | "background" => return { a with background := ← n.text }
    | "evidence" => return { a with evidence := ← evidenceSection.listOfNode positional n }
    | _ => return a

def serviceSection : Section Service where
  fields :=
    ["name", "description", "tcp_listen", "ws_listen", "max_players", "keepalive_timeout_ms",
      "max_buffer_bytes", "motd"]
  required := []
  blank := {}
  set field n s :=
    match field with
    | "name" => return { s with name := ← n.text }
    | "description" => return { s with description := ← n.text }
    | "tcp_listen" => return { s with tcpListen := ← n.text }
    | "ws_listen" => return { s with wsListen := ← n.text }
    | "max_players" => return { s with maxPlayers := ← n.unsigned (UInt64.size - 1) }
    | "keepalive_timeout_ms" => return { s with keepaliveTimeout := ← n.unsigned (UInt64.size - 1) }
    | "max_buffer_bytes" => return { s with maxBuffer := ← n.unsigned (UInt64.size - 1) }
    | "motd" => return { s with motd := ← n.optionalText }
    | _ => return s

def allowanceSection : Section Allowance where
  fields := ["rps", "burst"]
  required := []
  blank := {}
  set field n a :=
    match field with
    | "rps" => return { a with rate := (← n.unsigned (UInt32.size - 1)).toUInt32 }
    | "burst" => return { a with burst := (← n.unsigned (UInt32.size - 1)).toUInt32 }
    | _ => return a

def configSection (positional : Bool) : Section Config where
  fields := ["version", "server", "flood", "characters", "music", "areas"]
  required := ["version", "characters", "areas"]
  blank := { version := 0, characters := [], areas := [] }
  set field n c :=
    match field with
    | "version" => return { c with version := ← n.unsigned (UInt32.size - 1) }
    | "server" => return { c with server := ← serviceSection.ofNode positional n }
    | "flood" => return { c with flood := ← allowanceSection.ofNode positional n }
    | "characters" => return { c with characters := ← n.texts }
    | "music" => return { c with music := ← n.texts }
    | "areas" => return { c with areas := ← (areaSection positional).listOfNode positional n }
    | _ => return c

/-- Reads a configuration without checking it. In a document with typed scalars the sections
may also stand as lists of their values. -/
def ofDocument (positional : Bool) (d : Document) : Except Mismatch Config :=
  d.read ((configSection positional).ofNode positional)

end CourtroomGateway.Config
