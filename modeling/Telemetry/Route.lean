/-
How a decorator comes around a service.

There are two routes.  A decorator can be put around an inner stack at once, or it can be
made into a layer, which is a value of its own and can be put around inner stacks as often
as one likes.  A recorder's labels are checked on either route: each time that it is put
around a stack, or once when the layer is made.  A bundle checks nothing any more; it puts
its four decorators around a stack with the orders that it holds.
-/
import Telemetry.Assembly

namespace Telemetry

/-- How a decorator is put around inner stacks. -/
inductive Route
  /-- Around each inner stack at once. -/
  | new
  /-- By a layer that is made beforehand. -/
  | layer
deriving DecidableEq

namespace Recorder

/-- The recorder around an inner stack, with an order that is taken as it is. -/
def fromParts (recorder : Recorder) (order : LabelOrder) (inner : Stack) : Stack :=
  .record recorder order :: inner

/-- Puts the recorder around an inner stack. -/
def new (recorder : Recorder) (inner : Stack) : Except LabelError Stack := do
  let order ← LabelOrder.check recorder.names
  return recorder.fromParts order inner

/-- Makes a layer of the recorder. -/
def layer (recorder : Recorder) : Except LabelError (Stack → Stack) := do
  let order ← LabelOrder.check recorder.names
  return recorder.fromParts order

end Recorder

namespace Bundle

/-- Puts the bundle's decorators around an inner stack, the innermost first. -/
def instrument (bundle : Bundle) (inner : Stack) : Stack :=
  let duration := Recorder.fromParts (.observe (.family bundle.duration)) bundle.durationOrder inner
  let trace := .trace bundle.hooks :: duration
  let count := Recorder.fromParts (.count (.family bundle.requests)) bundle.requestsOrder trace
  .inFlight (.gauge bundle.inFlight) :: count

/-- Makes a layer of the bundle. -/
def layer (bundle : Bundle) : Stack → Stack := fun inner => bundle.instrument inner

end Bundle

namespace Part

/-- Puts the part around an inner stack. -/
def new : Part → Stack → Except LabelError Stack
  | inFlight gauge, inner => .ok (.inFlight gauge :: inner)
  | count sink, inner => Recorder.new (.count sink) inner
  | duration sink, inner => Recorder.new (.observe sink) inner
  | events sink, inner => do
    let hooks ← HookTable.observeEvents sink
    return .trace hooks :: inner
  | hooks table, inner => .ok (.trace table :: inner)
  | metrics bundle, inner => .ok (bundle.instrument inner)

/-- Makes a layer of the part. -/
def layer : Part → Except LabelError (Stack → Stack)
  | inFlight gauge => .ok fun inner => .inFlight gauge :: inner
  | count sink => Recorder.layer (.count sink)
  | duration sink => Recorder.layer (.observe sink)
  | events sink => do
    let hooks ← HookTable.observeEvents sink
    return fun inner => .trace hooks :: inner
  | hooks table => .ok fun inner => .trace table :: inner
  | metrics bundle => .ok bundle.layer

/-- What puts the part around inner stacks by a route.  A layer is made here, once. -/
def around (part : Part) : Route → Except LabelError (Stack → Except LabelError Stack)
  | .new => .ok part.new
  | .layer => do
    let layer ← part.layer
    return fun inner => .ok (layer inner)

/-- What puts parts around inner stacks, the last part innermost, each by its own route.
All layers are made here, once. -/
def byHand : List (Part × Route) → Except LabelError (Stack → Except LabelError Stack)
  | [] => .ok .ok
  | (part, route) :: inside => do
    let inner ← byHand inside
    let outer ← part.around route
    return fun stack => do outer (← inner stack)

end Part

end Telemetry
