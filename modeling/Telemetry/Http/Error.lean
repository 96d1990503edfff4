/-
What is no part of an HTTP message.
-/
namespace Telemetry.Http

/-- Why a text or a number was refused as a part of a message. -/
inductive MessageError
  /-- The method is empty or has a character that no token may have. -/
  | invalidMethod
  /-- The status is not a number of three digits, the first of them not zero. -/
  | invalidStatus
deriving DecidableEq

/-- The message shown for the error. -/
def MessageError.message : MessageError → String
  | invalidMethod => "invalid HTTP method"
  | invalidStatus => "invalid status code"

end Telemetry.Http
