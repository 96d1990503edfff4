/-
Requests on their way through instrumented services.

Traffic is what happens to a set of services over time: requests are dispatched,
their transports report events and come to results, callers look at the results or
lose interest, services are copied and dropped, and the clock moves when it is told
to and at no other time.  One step of traffic has a reply, for whoever took the step,
and effects, which are left to the store.

Each dispatched request is an exchange.  It keeps the trace that the transport was
given, the result that the transport has for it at present, and, for as long as
the caller keeps it, the stages through which the result is looked at.
-/
import Telemetry.Stack
import Telemetry.Table

namespace Telemetry

/-- What is behind the layers of a service. -/
inductive Transport
  /-- A function; it always takes another request. -/
  | function
  /-- A transport whose readiness is set from outside. -/
  | scripted
deriving DecidableEq

/-- A transport with layers around it. -/
structure Service where
  stack : Stack
  transport : Transport
  /-- The requests that this transport was handed, and those handed to the transport it
  was copied from before that. -/
  calls : Nat

/-- One thing that a transport does while it is handed a request. -/
inductive Moment
  /-- It takes its time. -/
  | wait (d : Duration)
  /-- It reports an event of the request. -/
  | report (event : Event)
deriving DecidableEq

/-- A dispatched request. -/
structure Exchange where
  /-- The trace on the request that the transport was given. -/
  trace : Option Trace
  /-- The transport's result. -/
  result : Http.Progress
  /-- The stages of the layers, the outermost first, until the caller drops them. -/
  stages : Option (List Stage)

/-- Services and the requests dispatched through them. -/
structure Traffic where
  now : Instant
  /-- The readiness of the transports that have it set. -/
  readiness : Http.Readiness
  services : List Service
  exchanges : Table String Exchange

namespace Traffic

/-- One step of traffic. -/
inductive Step
  | advance (d : Duration)
  | setReadiness (readiness : Http.Readiness)
  /-- Asks whether a service takes another request. -/
  | ready (service : Nat)
  /-- Adds a copy of a service. -/
  | copy (service : Nat)
  /-- Drops a service and leaves a bare scripted transport in its place. -/
  | dropService (service : Nat)
  /-- Dispatches a request under an identifier; the moments are what the transport does
  while it is handed the request. -/
  | call (id : String) (service : Nat) (request : Request) (moments : List Moment)
  /-- Sets the transport's result for a request. -/
  | settle (id : String) (result : Http.Progress)
  /-- Looks at a request through its stages. -/
  | look (id : String)
  /-- Drops the stages of a request. -/
  | drop (id : String)
  /-- Reports an event of a request on the trace that its transport was given. -/
  | report (id : String) (event : Event)

/-- The reply to a step. -/
inductive Reply
  /-- The step was taken and there is nothing to say about it. -/
  | done
  | flag (value : Bool)
  | index (index : Nat)
  | readiness (readiness : Http.Readiness)
  /-- The request as the transport was given it, and the transport's calls so far. -/
  | reached (calls : Nat) (request : Request)
  | progress (progress : Http.Progress)
  /-- There is nothing under that identifier, or no longer. -/
  | gone
  /-- There is no such service. -/
  | noService

/-- What a transport does while it is handed a request. -/
def Moment.happen (request : Request) : Moment → Timed Unit
  | .wait d => Timed.advance d
  | .report event => request.fire event

/-- A transport handles a request: the moments happen, one after the other, and the
transport remembers the request as it was given it. -/
def handle (moments : List Moment) (request : Request) : Timed Request := do
  moments.forM (Moment.happen request)
  return request

/-- Whether the service's transport takes another request. -/
def transportReady (traffic : Traffic) : Transport → Http.Readiness
  | .function => .ready
  | .scripted => traffic.readiness

/-- What a step comes to. -/
structure Stepped where
  reply : Reply
  traffic : Traffic
  /-- What the step did, in order. -/
  effects : List Effect

/-- A step without effects. -/
def Stepped.quiet (traffic : Traffic) (reply : Reply) : Stepped := ⟨reply, traffic, []⟩

/-- Asks a service whether it takes another request. -/
def askReady (traffic : Traffic) (service : Service) : Stepped :=
  let outcome :=
    (service.stack.ready (pure (traffic.transportReady service.transport))).run traffic.now
  ⟨.readiness outcome.value, { traffic with now := outcome.now }, outcome.effects⟩

/-- Dispatches a request through the service at a place in the list of services. -/
def dispatch (traffic : Traffic) (id : String) (place : Nat) (service : Service)
    (request : Request) (moments : List Moment) : Stepped :=
  let outcome := (service.stack.call (handle moments) request).run traffic.now
  let (reached, stages) := outcome.value
  let calls := service.calls + 1
  { reply := .reached calls reached
    traffic :=
      { traffic with
        now := outcome.now
        services := traffic.services.set place { service with calls }
        exchanges := traffic.exchanges.insert id ⟨reached.trace, .pending, some stages⟩ }
    effects := outcome.effects }

/-- Looks at an exchange through its stages, if the caller still has them. -/
def lookAt (traffic : Traffic) (id : String) (exchange : Exchange) : Stepped :=
  match exchange.stages with
  | none => .quiet traffic .gone
  | some stages =>
    let outcome := (Stage.look (pure exchange.result) stages).run traffic.now
    let (progress, left) := outcome.value
    { reply := .progress progress
      traffic :=
        { traffic with
          now := outcome.now
          exchanges := traffic.exchanges.insert id { exchange with stages := some left } }
      effects := outcome.effects }

/-- Reports an event on the trace of an exchange, if it has one. -/
def reportTo (traffic : Traffic) (exchange : Exchange) (event : Event) : Stepped :=
  match exchange.trace with
  | none => .quiet traffic (.flag false)
  | some trace =>
    let outcome := (trace.fire event).run traffic.now
    ⟨.flag true, { traffic with now := outcome.now }, outcome.effects⟩

/-- The traffic with an exchange in place of any under the same identifier. -/
def keep (traffic : Traffic) (id : String) (exchange : Exchange) : Traffic :=
  { traffic with exchanges := traffic.exchanges.insert id exchange }

/-- Takes one step. -/
def step (traffic : Traffic) : Step → Stepped
  | .advance d => .quiet { traffic with now := traffic.now.after d } .done
  | .setReadiness readiness => .quiet { traffic with readiness } .done
  | .ready place =>
    match traffic.services[place]? with
    | none => .quiet traffic .noService
    | some service => traffic.askReady service
  | .copy place =>
    match traffic.services[place]? with
    | none => .quiet traffic .noService
    | some service =>
      .quiet { traffic with services := traffic.services ++ [service] }
        (.index traffic.services.length)
  | .dropService place =>
    .quiet { traffic with services := traffic.services.set place ⟨[], .scripted, 0⟩ } .done
  | .call id place request moments =>
    match traffic.services[place]? with
    | none => .quiet traffic .noService
    | some service => traffic.dispatch id place service request moments
  | .settle id result =>
    match traffic.exchanges.get? id with
    | none => .quiet traffic .gone
    | some exchange => .quiet (traffic.keep id { exchange with result }) .done
  | .look id =>
    match traffic.exchanges.get? id with
    | none => .quiet traffic .gone
    | some exchange => traffic.lookAt id exchange
  | .drop id =>
    match traffic.exchanges.get? id with
    | none => .quiet traffic (.flag false)
    | some exchange =>
      .quiet (traffic.keep id { exchange with stages := none }) (.flag exchange.stages.isSome)
  | .report id event =>
    match traffic.exchanges.get? id with
    | none => .quiet traffic .gone
    | some exchange => traffic.reportTo exchange event

end Traffic

end Telemetry
