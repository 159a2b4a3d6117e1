import CourtroomGateway.Speech.Decoder

/-! Faults: why a command, a connection or a configuration was refused. Each fault has a message
and a stable code; a session survives the faults whose code is recoverable. -/

namespace CourtroomGateway

inductive Code
  | badRequest | notAllowed | payloadTooLarge | rateLimited | timeout | unsupportedVersion
  | internal
deriving Repr, DecidableEq

namespace Code

def name : Code → String
  | badRequest => "BAD_REQUEST"
  | notAllowed => "NOT_ALLOWED"
  | payloadTooLarge => "PAYLOAD_TOO_LARGE"
  | rateLimited => "RATE_LIMITED"
  | timeout => "TIMEOUT"
  | unsupportedVersion => "UNSUPPORTED_VERSION"
  | internal => "INTERNAL"

def isRecoverable : Code → Bool
  | badRequest | notAllowed | rateLimited => true
  | payloadTooLarge | timeout | unsupportedVersion | internal => false

end Code

inductive Fault
  | badRequest (detail : String)
  | notAllowed (detail : String)
  | payloadTooLarge
  | rateLimited
  | timeout
  | unsupportedVersion
  | internal (detail : String)
deriving Repr, DecidableEq

namespace Fault

def code : Fault → Code
  | badRequest _ => .badRequest
  | notAllowed _ => .notAllowed
  | payloadTooLarge => .payloadTooLarge
  | rateLimited => .rateLimited
  | timeout => .timeout
  | unsupportedVersion => .unsupportedVersion
  | internal _ => .internal

def message : Fault → String
  | badRequest detail => "bad request: " ++ detail
  | notAllowed detail => "not allowed: " ++ detail
  | payloadTooLarge => "payload too large"
  | rateLimited => "rate limited"
  | timeout => "keepalive timeout"
  | unsupportedVersion => "unsupported version"
  | internal detail => "internal: " ++ detail

def isRecoverable (f : Fault) : Bool := f.code.isRecoverable

end Fault

def Speech.DecodeError.toFault (e : DecodeError) : Fault := .badRequest e.message

end CourtroomGateway
