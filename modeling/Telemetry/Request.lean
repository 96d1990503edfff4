/-
Requests.
-/
import Telemetry.Http.Headers
import Telemetry.Http.Method
import Telemetry.Http.Uri
import Telemetry.Trace

namespace Telemetry

/-- A request as it is handed from layer to layer. -/
structure Request where
  method : Http.Method
  uri : Http.Uri
  headers : Http.Headers
  body : String
  /-- The listeners that the request carries; a request need not carry any trace. -/
  trace : Option Trace

namespace Request

/-- The request with one more listener, on a trace of its own if it had none. -/
def attach (request : Request) (listener : Listener) : Request :=
  { request with trace := some ((request.trace.getD .empty).attach listener) }

/-- Tells the request's listeners of an event. -/
def fire (request : Request) (event : Event) : Timed Unit :=
  match request.trace with
  | none => pure ()
  | some trace => trace.fire event

end Request

end Telemetry
