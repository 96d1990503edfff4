/-
The log.

Instrumentation says what it does: that a metric's labels were accepted, which phases
a trace times, and for each request what was recorded and what was left out.  A
record holds what it is about; its level, message and fields follow from that.
-/
import Telemetry.Http.Status
import Telemetry.Label.Order
import Telemetry.Phase
import Telemetry.Time

namespace Telemetry

/-- What instrumentation says about its work. -/
inductive LogRecord
  /-- A response metric's labels were accepted. -/
  | validated (order : LabelOrder)
  /-- A trace was put in place that times these phases. -/
  | tracing (phases : List Phase)
  /-- A phase was timed. -/
  | lifecycle (phase : Phase) (elapsed : Duration)
  /-- A phase ended in failure and was not timed. -/
  | lifecycleFailed (phase : Phase) (error : String)
  /-- A response is about to be recorded. -/
  | recording (status : Http.Status) (method : String) (elapsed : Duration)
  /-- A request failed, so nothing is recorded for it. -/
  | notRecorded (method : String)
deriving DecidableEq

namespace LogRecord

/-- How much a record matters to a reader of the log. -/
inductive Level
  | debug
  | trace
deriving DecidableEq

/-- The level's name. -/
def Level.name : Level → String
  | debug => "DEBUG"
  | trace => "TRACE"

/-- The value of a record's field. -/
inductive FieldValue
  | text (text : String)
  | seconds (seconds : Float)

/-- Records about setting up are for debugging, records about requests for tracing. -/
def level : LogRecord → Level
  | validated _ | tracing _ => .debug
  | _ => .trace

/-- The record's message. -/
def message : LogRecord → String
  | validated _ => "Validated metric labels"
  | tracing _ => "Tracing client requests"
  | lifecycle .. => "Lifecycle event"
  | lifecycleFailed .. => "Lifecycle event failed; not timed"
  | recording .. => "Recording response"
  | notRecorded _ => "Request failed; not recorded"

/-- The record's fields, in order. -/
def fields : LogRecord → List (String × FieldValue)
  | validated order => [("labels", .text (Text.bracketed (order.labels.map Label.title)))]
  | tracing phases => [("hooks", .text (Text.braced .oneLine (phases.map Phase.title)))]
  | lifecycle phase elapsed =>
    [("phase", .text phase.name), ("secs", .seconds elapsed.seconds)]
  | lifecycleFailed phase error => [("phase", .text phase.name), ("error", .text error)]
  | recording status method elapsed =>
    [("status", .text status.text), ("method", .text method), ("elapsed", .text elapsed.text)]
  | notRecorded method => [("method", .text method)]

end LogRecord

end Telemetry
