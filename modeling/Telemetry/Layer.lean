/-
The layers that instrument a transport.

A layer stands between a caller and a transport and passes everything through.  There
are three kinds.  An in-flight layer raises a gauge before it passes a request on and
lowers it when the response arrives.  A recording layer records each response in a
sink, with the response's status, the request's method and the time in between.  A
trace layer attaches a timer to the request.

What a layer has to remember of a request it remembers in a stage, of which each
dispatched request has its own, and which acts at most once.  The two kinds of stage
differ when a request fails: the gauge stays raised until some later look shows a
response, whereas a recording is given up for good.
-/
import Telemetry.Http.Response
import Telemetry.Request

namespace Telemetry

/-- How a response is recorded. -/
inductive Recorder
  /-- Add one to a counter. -/
  | count (sink : CounterSink)
  /-- Have an observer observe the time that the response took. -/
  | observe (sink : ObserverSink)
deriving DecidableEq

namespace Recorder

/-- The label names of the recorder's sink. -/
def names : Recorder → List String
  | count sink => sink.names
  | observe sink => sink.names

/-- The effect of recording one response. -/
def record : Recorder → List String → Duration → Effect
  | count sink, values, _ => .count sink values
  | observe sink, values, elapsed => .observe sink (.elapsed elapsed) values

end Recorder

/-- One layer of instrumentation. -/
inductive Layer
  | inFlight (gauge : GaugeSink)
  | record (recorder : Recorder) (order : LabelOrder)
  | trace (hooks : HookTable)
deriving DecidableEq

/-- A recording that still waits for its response. -/
structure Recording where
  recorder : Recorder
  order : LabelOrder
  /-- The label value of the request's method. -/
  method : String
  /-- When the request was passed on. -/
  start : Instant
deriving DecidableEq

/-- What a layer remembers of one request. -/
inductive Stage
  /-- The gauge that is still raised for the request, if it is. -/
  | gauge (raised : Option GaugeSink)
  /-- The recording that is still to be made, if it is. -/
  | recording (due : Option Recording)
deriving DecidableEq

namespace Recording

/-- Records a response. -/
def complete (recording : Recording) (response : Http.Response) : Timed Unit := do
  let now ← Timed.now
  let elapsed := now.since recording.start
  let values := recording.order.values response.status.text recording.method
  Timed.log (.recording response.status recording.method elapsed)
  Timed.emit (recording.recorder.record values elapsed)

/-- Gives the recording up. -/
def abandon (recording : Recording) : Timed Unit :=
  Timed.log (.notRecorded recording.method)

end Recording

namespace Stage

/-- Passes on what was seen of the request, and does what the stage has to do about
it: returns what is passed on and the stage that is left. -/
def pass : Stage → Http.Progress → Timed (Http.Progress × Stage)
  | gauge (some sink), .answered response => do
    Timed.emit (.lower sink)
    return (.answered response, gauge none)
  | recording (some due), .answered response => do
    due.complete response
    return (.answered response, recording none)
  | recording (some due), .failed error => do
    due.abandon
    return (.failed error, recording none)
  | stage, progress => return (progress, stage)

end Stage

namespace Layer

/-- Passes a request on to what is inside the layer.  What comes back is whatever
came back from inside, with the layer's own stage, if it keeps one, in front of the
inner ones. -/
def call {α : Type} (layer : Layer) (inner : Request → Timed (α × List Stage))
    (request : Request) : Timed (α × List Stage) :=
  match layer with
  | inFlight gauge => do
    Timed.emit (.raise gauge)
    let (result, stages) ← inner request
    return (result, .gauge (some gauge) :: stages)
  | record recorder order => do
    let method := request.method.label
    let start ← Timed.now
    let (result, stages) ← inner request
    return (result, .recording (some ⟨recorder, order, method, start⟩) :: stages)
  | trace hooks => do
    let start ← Timed.now
    inner (request.attach (.leaf (.timer hooks start)))

/-- Asks what is inside the layer whether it takes another request. -/
def ready (_ : Layer) (inner : Timed Http.Readiness) : Timed Http.Readiness := inner

end Layer

end Telemetry
