/-
A shelf of requests and the traces they carry.

Of each request only its trace is kept, under the request's name; a request comes
into being, without a trace, when it is first named.  Traces are values.  When the
trace of one request is attached to another request, or to the same one, what is
attached is the trace as it is at that moment.
-/
import Telemetry.Table
import Telemetry.Trace

namespace Telemetry

/-- The traces of some requests. -/
structure TraceShelf where
  traces : Table String (Option Trace)

namespace TraceShelf

/-- The shelf without requests. -/
def empty : TraceShelf := ⟨.empty⟩

/-- What can be done with the requests. -/
inductive Step
  /-- Attaches a listener. -/
  | attach (request : String) (listener : Listener)
  /-- Attaches the trace of a request as one listener. -/
  | attachTrace (request source : String)
  /-- Puts the trace of a request in the place of another's. -/
  | putTrace (request source : String)
  /-- Takes a request's trace away. -/
  | remove (request : String)
  /-- Makes a request a copy of another. -/
  | copy (request source : String)
  /-- Asks for a request's trace. -/
  | get (request : String)
  /-- Reports an event of a request. -/
  | fire (request : String) (event : Event)

/-- The reply to a step. -/
inductive Reply
  | done
  | flag (value : Bool)
  | trace (trace : Option Trace)

/-- What a step comes to. -/
structure Stepped where
  reply : Reply
  shelf : TraceShelf
  /-- What was done, in order. -/
  effects : List Effect

/-- The trace that a request carries, if it carries one. -/
def trace? (shelf : TraceShelf) (request : String) : Option Trace :=
  (shelf.traces.get? request).join

/-- The trace that a request carries, the empty one if it carries none. -/
def traceOf (shelf : TraceShelf) (request : String) : Trace :=
  (shelf.trace? request).getD .empty

/-- The shelf with a request's trace replaced. -/
def put (shelf : TraceShelf) (request : String) (trace : Option Trace) : TraceShelf :=
  ⟨shelf.traces.insert request trace⟩

/-- The shelf with one more listener on a request. -/
def attach (shelf : TraceShelf) (request : String) (listener : Listener) : TraceShelf :=
  shelf.put request (some ((shelf.traceOf request).attach listener))

/-- Takes one step. -/
def step (shelf : TraceShelf) : Step → Stepped
  | .attach request listener => ⟨.done, shelf.attach request listener, []⟩
  | .attachTrace request source =>
    ⟨.done, shelf.attach request (shelf.traceOf source).asListener, []⟩
  | .putTrace request source =>
    ⟨.flag (shelf.trace? request).isSome, shelf.put request (some (shelf.traceOf source)), []⟩
  | .remove request => ⟨.flag (shelf.trace? request).isSome, shelf.put request none, []⟩
  | .copy request source => ⟨.done, shelf.put request (shelf.trace? source), []⟩
  | .get request => ⟨.trace (shelf.trace? request), shelf, []⟩
  | .fire request event =>
    match shelf.trace? request with
    | none => ⟨.flag false, shelf, []⟩
    | some trace => ⟨.flag true, shelf, ((trace.fire event).run .start).effects⟩

/-- Takes steps one after the other. -/
def run (shelf : TraceShelf) : List Step → List Stepped
  | [] => []
  | step :: rest =>
    let stepped := shelf.step step
    stepped :: stepped.shelf.run rest

end TraceShelf

end Telemetry
