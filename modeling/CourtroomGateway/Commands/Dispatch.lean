import CourtroomGateway.Commands.Character
import CourtroomGateway.Commands.Chatting
import CourtroomGateway.Commands.Joining
import CourtroomGateway.Commands.Music
import CourtroomGateway.Commands.Speaking

/-! Dispatch: the handler of a packet's command reacts to it, and the metrics record how it went.
A handler that crashes leaves no record. A handler takes as long as the hall's clock moves while it
reacts. -/

namespace CourtroomGateway

structure Handlers where
  table : Table String Handler := ∅

namespace Handlers

/-- Answers these commands with this handler from now on. -/
def register (hs : Handlers) (commands : List String) (handler : Handler) : Handlers :=
  ⟨commands.foldl (fun t command => t.insert command handler) hs.table⟩

/-- The commands that have a handler, in order. -/
def commands (hs : Handlers) : List String := hs.table.keys

def joiningCommands : List String := ["HI", "ID", "askchaa", "RC", "RM", "RD", "CH"]

def builtin : Handlers :=
  ((((({} : Handlers).register joiningCommands Commands.joining.handle).register
    ["CC"] Commands.character.handle).register
    ["MS"] Commands.speaking.handle).register
    ["CT"] Commands.chatting.handle).register
    ["MC"] Commands.music.handle

def recordUnknown (s : Scene) : Scene :=
  { s with
    hall :=
      { s.hall with
        metrics :=
          { s.hall.metrics with
            unknownCommands := s.hall.metrics.unknownCommands.inc [] } } }

/-- Records how long a handler took that started at this time of the hall's clock. -/
def recordDuration (command : String) (started : Nat) (s : Scene) : Scene :=
  let nanoseconds := (s.hall.clock - started) * 1000000
  { s with
    hall :=
      { s.hall with
        metrics :=
          { s.hall.metrics with
            dispatchDuration :=
              s.hall.metrics.dispatchDuration.observe [⟨"cmd", command⟩] nanoseconds } } }

def recordFault (command : String) (fault : Fault) (s : Scene) : Scene :=
  { s with
    hall :=
      { s.hall with
        metrics :=
          { s.hall.metrics with
            handlerErrors :=
              s.hall.metrics.handlerErrors.inc
                [⟨"cmd", command⟩, ⟨"code", fault.code.name⟩] } } }

def dispatch (hs : Handlers) (s : Scene) (p : Wire.Packet) : Reaction :=
  match hs.table.find? p.command with
  | none => ⟨recordUnknown s, .refused (Refusal.unknownCommand p.command).toFault⟩
  | some handler =>
    let r := handler s p
    match r.outcome with
    | .done => ⟨recordDuration p.command s.hall.clock r.scene, .done⟩
    | .refused fault =>
      ⟨recordFault p.command fault (recordDuration p.command s.hall.clock r.scene),
        .refused fault⟩
    | .crashed => r

end Handlers
end CourtroomGateway
