/-
The labels that partition response metrics.

Two labels exist: the status code of the response and the method of the request.  A
metric names the labels it wants, and only these two names are understood, letter for
letter.
-/
import Telemetry.Label.Error

namespace Telemetry

/-- A label that every completed response has a value for. -/
inductive Label
  | code
  | method
deriving DecidableEq

namespace Label

/-- The label's name in a metric's declaration. -/
def name : Label → String
  | code => "code"
  | method => "method"

/-- The label as log records show it. -/
def title : Label → String
  | code => "Code"
  | method => "Method"

/-- The label of that name. -/
def ofName (name : String) : Except LabelError Label :=
  if name = code.name then .ok code
  else if name = method.name then .ok method
  else .error (.unsupported name)

end Label

/-- The one label of a lifecycle metric. -/
def eventLabel : String := "event"

/-- Accepts the labels of a lifecycle metric: the event label and nothing else. -/
def checkEventLabel (names : List String) : Except LabelError Unit :=
  if names = [eventLabel] then .ok () else .error (.notEvent names)

end Telemetry
