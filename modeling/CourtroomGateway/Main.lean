import CourtroomGateway.Config.Load
import CourtroomGateway.Gateway

/-! The program: it loads the configuration that its first argument names and serves one client on
its standard streams. The clock follows the machine's between chunks, and the messages of a chunk
are all handled at the instant at which it was read. -/

namespace CourtroomGateway.Program

def defaultPath : String := "aoprism.yaml"

def load (path : String) : IO (Except ConfigFault Config) := do
  try
    return Config.ofYaml (← IO.FS.readFile path)
  catch e =>
    return .error (.unreadable (toString e))

/-- Writes what waits for a client. -/
def deliver (g : Gateway) (id : Nat) (output : IO.FS.Stream) : IO Gateway := do
  let (wires, g) := g.collect id
  for wire in wires do
    output.putStr wire
  output.flush
  return g

partial def serve (g : Gateway) (id : Nat) (before : Nat) (input output : IO.FS.Stream) :
    IO Unit := do
  let g ← deliver g id output
  let chunk ← input.read 4096
  if chunk.isEmpty then
    return
  let now ← IO.monoNanosNow
  let milliseconds := now / Flood.Bucket.millisecond - before / Flood.Bucket.millisecond
  let (flow, g) := (g.wait milliseconds).send id (fun _ => now) chunk.toList
  match flow with
  | .goOn => serve g id now input output
  | .close why =>
    let _ ← deliver g id output
    IO.eprintln why.reason
  | .broken => IO.eprintln "flood control overflowed"

def start (config : Config) : IO UInt32 := do
  match Gateway.ofConfig .builtin config with
  | .error fault =>
    IO.eprintln fault.toFault.message
    return 1
  | .ok g =>
    let now ← IO.monoNanosNow
    match g.arrive .tcp now with
    | (.error refusal, _) =>
      IO.eprintln refusal.toFault.message
      return 1
    | (.ok id, g) =>
      serve g id now (← IO.getStdin) (← IO.getStdout)
      return 0

end CourtroomGateway.Program

def main (args : List String) : IO UInt32 := do
  match ← CourtroomGateway.Program.load (args.head?.getD CourtroomGateway.Program.defaultPath) with
  | .error fault =>
    IO.eprintln fault.toFault.message
    return 1
  | .ok config => CourtroomGateway.Program.start config
