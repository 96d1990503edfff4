/-
The listeners that a request carries.

A request may carry a trace: a list of listeners that are told of every lifecycle
event of the request, in the order in which they were attached.  A whole trace can in
turn be attached to a request as one listener, and then stands for all of its own
listeners.  At the leaves are two kinds of listener.  A probe shows what it hears.  A
timer belongs to one request under one hook table: it knows the instant at which the
request was dispatched, and at each phase with a hook it calls that hook with the
time elapsed since.
-/
import Telemetry.Hook
import Telemetry.Timed

namespace Telemetry

/-- Which events a probe takes notice of. -/
inductive Attention
  | everything
  /-- Only that a connection was obtained. -/
  | connections
  | nothing
deriving DecidableEq

/-- Whether an event of a phase is noticed. -/
def Attention.notices : Attention → Phase → Bool
  | everything, _ => true
  | connections, phase => phase == .gotConn
  | nothing, _ => false

/-- A listener that stands for itself. -/
inductive Leaf
  /-- Shows the events that it notices. -/
  | probe (name : String) (attention : Attention)
  /-- Calls hooks with the time since the request was dispatched. -/
  | timer (hooks : HookTable) (start : Instant)
deriving DecidableEq

/-- Something that is told of events. -/
inductive Listener
  | leaf (single : Leaf)
  /-- Passes events on to each of its members, in order. -/
  | group (members : List Listener)

/-- The listeners attached to a request, in order. -/
structure Trace where
  listeners : List Listener

/-- What a leaf does about an event.  A timer neither times a phase that ended in
failure nor one that has no hook. -/
def Leaf.hear (event : Event) : Leaf → Timed Unit
  | probe name attention =>
    if attention.notices event.phase then Timed.emit (.hear name event) else pure ()
  | timer hooks start =>
    match event.failure with
    | some error => Timed.log (.lifecycleFailed event.phase error)
    | none =>
      match hooks.hook? event.phase with
      | none => pure ()
      | some hook => do
        let now ← Timed.now
        let elapsed := now.since start
        Timed.log (.lifecycle event.phase elapsed)
        Timed.emit (hook.call (.elapsed elapsed))

mutual

/-- Tells a listener of an event. -/
def Listener.hear (event : Event) : Listener → Timed Unit
  | .leaf single => single.hear event
  | .group members => Listener.hearEach event members

/-- Tells each of some listeners of an event, in order. -/
def Listener.hearEach (event : Event) : List Listener → Timed Unit
  | [] => pure ()
  | listener :: rest => do
    listener.hear event
    Listener.hearEach event rest

end

mutual

/-- The leaves that a listener stands for, from left to right. -/
def Listener.leaves : Listener → List Leaf
  | .leaf single => [single]
  | .group members => Listener.leavesOfEach members

/-- The leaves that some listeners stand for, from left to right. -/
def Listener.leavesOfEach : List Listener → List Leaf
  | [] => []
  | listener :: rest => listener.leaves ++ Listener.leavesOfEach rest

end

namespace Trace

/-- The trace without listeners. -/
def empty : Trace := ⟨[]⟩

/-- The trace with one more listener, behind the others. -/
def attach (trace : Trace) (listener : Listener) : Trace := ⟨trace.listeners ++ [listener]⟩

/-- The trace as one listener. -/
def asListener (trace : Trace) : Listener := .group trace.listeners

/-- The number of listeners, a trace among them counting as one. -/
def size (trace : Trace) : Nat := trace.listeners.length

/-- Whether there is no listener. -/
def isEmpty (trace : Trace) : Bool := trace.listeners.isEmpty

/-- The leaves that the trace stands for, from left to right. -/
def leaves (trace : Trace) : List Leaf := Listener.leavesOfEach trace.listeners

/-- Tells every listener of an event. -/
def fire (trace : Trace) (event : Event) : Timed Unit := Listener.hearEach event trace.listeners

/-- The trace as a person reads it. -/
def text (trace : Trace) : String :=
  Text.record "ClientTrace" "listeners" (toString trace.size)

end Trace

end Telemetry
