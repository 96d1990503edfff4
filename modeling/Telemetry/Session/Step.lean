/-
The steps of a session.

A step is a step of traffic, or uses a sink directly, or asks for the exposition.
Requests and responses are given in words, and words that are no part of a message
are refused before anything happens.  The effects of a step go to the store as one
batch; what the store refuses leaves the whole session as it was.
-/
import Telemetry.Exposition.Lines
import Telemetry.Session.Setup

namespace Telemetry

/-- A request in words. -/
structure RequestDraft where
  method : String
  uri : String
  headers : List (String × String)
  body : String
  /-- The listeners that the request carries, if any. -/
  listeners : List Leaf

/-- The request that is meant. -/
def RequestDraft.request (draft : RequestDraft) : Except Http.MessageError Request := do
  let method ← Http.Method.ofString draft.method
  let bare : Request := ⟨method, .ofString draft.uri, .ofList draft.headers, draft.body, none⟩
  return draft.listeners.foldl (fun request leaf => request.attach (.leaf leaf)) bare

/-- A response in words. -/
structure ResponseDraft where
  status : Nat
  headers : List (String × String)
  body : String

/-- The response that is meant. -/
def ResponseDraft.response (draft : ResponseDraft) : Except Http.MessageError Http.Response := do
  let status ← Http.Status.ofNat draft.status
  return ⟨status, .ofList draft.headers, draft.body⟩

namespace Session

/-- One step of a session. -/
inductive Step
  | traffic (step : Traffic.Step)
  /-- Dispatches a request through a service. -/
  | call (id : String) (service : Nat) (draft : RequestDraft) (moments : List Moment)
  /-- Has the transport answer a request. -/
  | respond (id : String) (draft : ResponseDraft)
  /-- Adds one to a counter. -/
  | count (sink : String) (values : List String)
  /-- Makes an observation. -/
  | observe (sink : String) (value : Float) (values : List String)
  /-- Reads a counter. -/
  | read (sink : String) (values : List String)
  /-- Asks for the label names that a sink declares. -/
  | names (sink : String)
  | raise (sink : String)
  | lower (sink : String)
  /-- Asks for the exposition. -/
  | expose

/-- The reply to a step. -/
inductive Reply
  | traffic (reply : Traffic.Reply)
  /-- The words were no part of a message. -/
  | refused (error : Http.MessageError)
  | done
  | number (value : UInt64)
  | names (names : List String)
  | lines (lines : List String)
  /-- The label values did not match the label names in number. -/
  | mismatch (mismatch : LabelMismatch)
  /-- No sink of that name can be used in this way. -/
  | noSink (name : String)

/-- What a step comes to. -/
structure Stepped where
  reply : Reply
  session : Session
  /-- What the step did, in order. -/
  effects : List Effect

/-- A step without effects. -/
def Stepped.quiet (session : Session) (reply : Reply) : Stepped := ⟨reply, session, []⟩

/-- Hands effects to the store; `next` is the session if the store accepts them. -/
def commit (session next : Session) (reply : Reply) (effects : List Effect) : Stepped :=
  match next.store.applyAll effects with
  | .error mismatch => .quiet session (.mismatch mismatch)
  | .ok store => ⟨reply, { next with store }, effects⟩

/-- Takes a step of traffic. -/
def stepTraffic (session : Session) (step : Traffic.Step) : Stepped :=
  let stepped := session.traffic.step step
  session.commit { session with traffic := stepped.traffic } (.traffic stepped.reply)
    stepped.effects

/-- Uses a sink, taken for a certain use, by way of one effect. -/
def useSink {α : Type} (session : Session) (use : Sink → Option α) (name : String)
    (effect : α → Effect) : Stepped :=
  match (session.sinks.table.get? name).bind use with
  | none => .quiet session (.noSink name)
  | some sink => session.commit session .done [effect sink]

/-- Takes one step. -/
def step (session : Session) : Step → Stepped
  | .traffic step => session.stepTraffic step
  | .call id service draft moments =>
    match draft.request with
    | .error error => .quiet session (.refused error)
    | .ok request => session.stepTraffic (.call id service request moments)
  | .respond id draft =>
    match draft.response with
    | .error error => .quiet session (.refused error)
    | .ok response => session.stepTraffic (.settle id (.answered response))
  | .count name values => session.useSink Sink.counterSink? name (.count · values)
  | .observe name value values =>
    session.useSink Sink.observerSink? name (.observe · (.number value) values)
  | .read name values =>
    match (session.sinks.table.get? name).bind Sink.storedCounters? with
    | none => .quiet session (.noSink name)
    | some family =>
      match session.store.read family values with
      | .error mismatch => .quiet session (.mismatch mismatch)
      | .ok (value, store) => .quiet { session with store } (.number value)
  | .names name =>
    match (session.sinks.table.get? name).bind Sink.names? with
    | none => .quiet session (.noSink name)
    | some names => .quiet session (.names names)
  | .raise name => session.useSink Sink.gaugeSink? name .raise
  | .lower name => session.useSink Sink.gaugeSink? name .lower
  | .expose => .quiet session (.lines (Exposition.lines session.sinks.inventory session.store))

/-- Takes steps one after the other. -/
def run (session : Session) : List Step → List Stepped
  | [] => []
  | step :: rest =>
    let stepped := session.step step
    stepped :: stepped.session.run rest

/-- The values of the session's gauges, by name. -/
def gauges (session : Session) : List (String × Int64) :=
  session.sinks.gauges.map fun (name, gauge) => (name, session.store.gauge gauge)

end Session

end Telemetry
