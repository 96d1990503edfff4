/-
What can be wrong with the labels of a metric.

A response metric may be partitioned by status code and by request method, each at
most once; a lifecycle metric must be partitioned by the event and by nothing else.
Each way to break these rules is a cause of its own, and carries the names that a
reader of the message needs to find the mistake.
-/
import Telemetry.Text.Quoted

namespace Telemetry

/-- Why a metric's labels were refused. -/
inductive LabelError
  /-- A response metric declares a label that responses have no value for. -/
  | unsupported (name : String)
  /-- A response metric declares the same label twice. -/
  | duplicate (name : String)
  /-- A lifecycle metric declares something other than the one event label. -/
  | notEvent (names : List String)
deriving DecidableEq

namespace LabelError

/-- The message shown for the error. -/
def message : LabelError → String
  | unsupported name => "metric partitioned with non-supported label " ++ Text.quoted name
  | duplicate name =>
    "metric partitioned by label " ++ Text.quoted name ++ " more than once"
  | notEvent names =>
    "metric must be partitioned by a single \"event\" label; found " ++ Text.quotedList names

end LabelError

end Telemetry
