/-
Setting a session up.

A session declares its sinks and then its stacks, whose parts name the sinks they
use.  Each stack makes one service, over a transport of its own.
-/
import Telemetry.Assembly
import Telemetry.Metric.Store
import Telemetry.Session.Sinks
import Telemetry.Traffic

namespace Telemetry.Session

/-- The declaration of a part of a stack. -/
inductive PartSpec
  | inFlight (sink : String)
  | count (sink : String)
  | duration (sink : String)
  | events (sink : String)
  /-- Hooks that write the listed phases down under a tag. -/
  | hooks (phases : List Phase) (tag : String)
  | bundle (sink : String)

/-- The part that is declared. -/
def PartSpec.resolve (sinks : Sinks) : PartSpec → Except SetupError Part
  | inFlight sink => Part.inFlight <$> sinks.find Sink.gaugeSink? sink
  | count sink => Part.count <$> sinks.find Sink.counterSink? sink
  | duration sink => Part.duration <$> sinks.find Sink.observerSink? sink
  | events sink => Part.events <$> sinks.find Sink.observerSink? sink
  | hooks phases tag =>
    .ok (.hooks (phases.foldl (fun table phase => table.on phase (.note tag phase)) .empty))
  | bundle sink => Part.metrics <$> sinks.find Sink.bundle? sink

/-- The declaration of a session. -/
structure Plan where
  sinks : List (String × SinkSpec)
  /-- What is behind the layers of every service. -/
  transport : Transport
  /-- For each service its stack, the parts from the outermost inwards. -/
  services : List (List PartSpec)

/-- Puts the stack at a place in the list of stacks together. -/
def assembleStack (sinks : Sinks) (place : Nat) (specs : List PartSpec) :
    Except SetupError Assembled := do
  let parts ← specs.mapM (PartSpec.resolve sinks)
  match Assembled.ofParts parts with
  | .error error => .error (.layer place error.place error.cause)
  | .ok assembled => .ok assembled

/-- Puts stacks together in order, the first of them at a place. -/
def assembleFrom (sinks : Sinks) (place : Nat) :
    List (List PartSpec) → Except SetupError (List Assembled)
  | [] => .ok []
  | specs :: rest => do
    let assembled ← assembleStack sinks place specs
    return assembled :: (← assembleFrom sinks (place + 1) rest)

end Session

/-- Services, the sinks they record into, and the values recorded. -/
structure Session where
  sinks : Session.Sinks
  traffic : Traffic
  store : Store

namespace Session

/-- A session that was just set up. -/
structure Opened where
  session : Session
  /-- For each stack and each of its parts, the declared response labels if the part
  records responses in one sink. -/
  orders : List (List (Option LabelOrder))
  /-- What was written to the log on the way. -/
  log : List LogRecord

/-- Sets a session up: the sinks first, then the stacks. -/
def start (plan : Plan) : Except SetupError Opened := do
  let sinks ← Sinks.empty.declareFrom 0 plan.sinks
  let assembled ← assembleFrom sinks 0 plan.services
  let services := assembled.map fun one =>
    { stack := one.stack, transport := plan.transport, calls := 0 : Service }
  return {
    session :=
      { sinks, store := .empty
        traffic := { now := .start, readiness := .ready, services, exchanges := .empty } }
    orders := assembled.map Assembled.orders
    log := sinks.log ++ assembled.flatMap Assembled.log }

end Session

end Telemetry
