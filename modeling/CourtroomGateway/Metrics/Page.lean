import CourtroomGateway.Metrics.Family

/-! All families of the gateway, and the page that shows them. -/

namespace CourtroomGateway

structure Metrics where
  /-- Accepted connections, by transport. -/
  connections : Metrics.Counter := {}
  /-- Live sessions, by transport. -/
  activeSessions : Metrics.Gauge := {}
  /-- In-character messages that were read, by dialect. -/
  decoded : Metrics.Counter := {}
  /-- In-character messages that were not, by reason. -/
  decodeFailures : Metrics.Counter := {}
  /-- Discarded buffers, by transport. -/
  framingOverflows : Metrics.Counter := {}
  floodDrops : Metrics.Counter := {}
  unknownCommands : Metrics.Counter := {}
  /-- Handler durations, by command. -/
  dispatchDuration : Metrics.Histogram := {}
  /-- Refused commands, by command and code. -/
  handlerErrors : Metrics.Counter := {}

namespace Metrics

def lines (m : Metrics) : List String :=
  m.connections.lines "aoprism_connections_total" ++
  m.activeSessions.lines "aoprism_sessions_active" ++
  m.decoded.lines "aoprism_ic_decoded_total" ++
  m.decodeFailures.lines "aoprism_ic_decode_failures_total" ++
  m.framingOverflows.lines "aoprism_framing_overflows_total" ++
  m.floodDrops.lines "aoprism_flood_drops_total" ++
  m.unknownCommands.lines "aoprism_unknown_commands_total" ++
  m.dispatchDuration.lines "aoprism_dispatch_duration_micros" ++
  m.handlerErrors.lines "aoprism_handler_errors_total"

/-- Every line closed by a line break; the extra samples come last. -/
def pageChars (m : Metrics) (extra : List (String × Nat)) : List Char :=
  let samples := extra.map fun e => e.1 ++ " " ++ Text.decimalNat e.2
  (m.lines ++ samples).flatMap fun line => line.toList ++ ['\n']

def page (m : Metrics) (extra : List (String × Nat)) : String := String.ofList (m.pageChars extra)

@[simp] theorem toList_page (m : Metrics) (extra : List (String × Nat)) :
    (m.page extra).toList = m.pageChars extra := String.toList_ofList

end Metrics
end CourtroomGateway
