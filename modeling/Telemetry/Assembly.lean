/-
Putting a stack together.

A stack is described by its parts, the outermost first, and put together from the
inside out.  Most parts give one layer, a bundle gives four.  The labels of a sink are
checked when its layer is made; the first part to be refused, counted from the
inside, is the error.  Parts that were accepted say so in the log.
-/
import Telemetry.Bundle

namespace Telemetry

/-- A part of a stack. -/
inductive Part
  /-- A gauge of requests in flight. -/
  | inFlight (gauge : GaugeSink)
  /-- A counter of responses. -/
  | count (sink : CounterSink)
  /-- An observer of the time that responses take. -/
  | duration (sink : ObserverSink)
  /-- An observer of the time of lifecycle events. -/
  | events (sink : ObserverSink)
  /-- Hooks of one's own for lifecycle events. -/
  | hooks (table : HookTable)
  /-- A set of metrics of all kinds. -/
  | metrics (bundle : Bundle)
deriving DecidableEq

/-- Layers that were put together. -/
structure Assembled where
  stack : Stack
  /-- For each part, the order of its response labels if it has just one. -/
  orders : List (Option LabelOrder)
  /-- What was written to the log on the way. -/
  log : List LogRecord

/-- The refusal of a part. -/
structure PartError where
  /-- The part's place in the stack, counted from the outermost. -/
  place : Nat
  cause : LabelError
deriving DecidableEq

namespace Part

/-- A recording layer for a sink whose labels are checked. -/
def recording (recorder : Recorder) : Except LabelError Assembled := do
  let order ← LabelOrder.check recorder.names
  return ⟨[.record recorder order], [some order], [.validated order]⟩

/-- A trace layer. -/
def tracing (hooks : HookTable) : Assembled :=
  ⟨[.trace hooks], [none], [.tracing hooks.phases]⟩

/-- The layers of a part. -/
def assemble : Part → Except LabelError Assembled
  | inFlight gauge => .ok ⟨[.inFlight gauge], [none], []⟩
  | count sink => recording (.count sink)
  | duration sink => recording (.observe sink)
  | events sink => do return tracing (← HookTable.observeEvents sink)
  | hooks table => .ok (tracing table)
  | metrics bundle => .ok ⟨bundle.layers, [none], [.tracing bundle.hooks.phases]⟩

end Part

/-- Puts the parts of a stack together. -/
def Assembled.ofParts : List Part → Except PartError Assembled
  | [] => .ok ⟨[], [], []⟩
  | part :: inside =>
    match ofParts inside with
    | .error error => .error { error with place := error.place + 1 }
    | .ok inner =>
      match part.assemble with
      | .error cause => .error ⟨0, cause⟩
      | .ok outer =>
        .ok ⟨outer.stack ++ inner.stack, outer.orders ++ inner.orders, inner.log ++ outer.log⟩

end Telemetry
