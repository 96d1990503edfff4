/-
Responses, and how far a request is from having one.
-/
import Telemetry.Http.Headers
import Telemetry.Http.Status

namespace Telemetry.Http

/-- A response as the client receives it. -/
structure Response where
  status : Status
  headers : Headers := .none
  body : String := ""

/-- What a look at a dispatched request shows. -/
inductive Progress
  /-- There is no result yet. -/
  | pending
  /-- The request was answered. -/
  | answered (response : Response)
  /-- The request failed. -/
  | failed (error : String)

/-- Whether a transport takes another request. -/
inductive Readiness
  | ready
  | pending
  /-- It will not take one any more. -/
  | broken (error : String)
deriving DecidableEq

end Telemetry.Http
