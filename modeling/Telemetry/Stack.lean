/-
Stacks of layers.

A stack lists its layers from the outermost to the innermost; the transport is behind
the last of them.  A call goes through the layers from the outside in, and what is
seen of a dispatched request comes back through their stages from the inside out.
-/
import Telemetry.Layer

namespace Telemetry

/-- Layers around a transport, the outermost first. -/
abbrev Stack := List Layer

namespace Stack

/-- Passes a request through every layer to the transport.  What comes back is what
the transport returned, with the stages of the layers, the outermost first. -/
def call {α : Type} (stack : Stack) (transport : Request → Timed α) :
    Request → Timed (α × List Stage) :=
  stack.foldr Layer.call fun request => do return (← transport request, [])

/-- Asks through every layer whether the transport takes another request. -/
def ready (stack : Stack) (transport : Timed Http.Readiness) : Timed Http.Readiness :=
  stack.foldr Layer.ready transport

end Stack

/-- Looks at a dispatched request through the stages of its layers: what is seen, and
the stages that are left. -/
def Stage.look (transport : Timed Http.Progress) :
    List Stage → Timed (Http.Progress × List Stage)
  | [] => do return (← transport, [])
  | stage :: inner => do
    let (progress, inner) ← look transport inner
    let (progress, stage) ← stage.pass progress
    return (progress, stage :: inner)

end Telemetry
