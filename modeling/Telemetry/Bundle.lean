/-
The standard set of metrics for a client.

A bundle is four metrics that are used together: a gauge of requests in flight, a
counter of completed requests, a histogram of the time they took and a histogram of
the time at which their lifecycle events occurred.  It can be registered afresh, with
labels that are fixed, or put together from families that exist already and whose
labels are checked.  A check notes in the log what it has accepted: `ofFamilies` is
what comes of the checks, and `assembling` is the same with what they note.  As layers
a bundle is the gauge around the counter around the trace around the histogram of
durations.
-/
import Telemetry.Inventory
import Telemetry.Stack

namespace Telemetry

/-- The choices that a registered bundle leaves open. -/
structure BundleConfig where
  /-- Bucket bounds for the time that requests take, in seconds. -/
  durationBuckets : List Float
  /-- Bucket bounds for the time of lifecycle events, in seconds. -/
  traceBuckets : List Float
deriving DecidableEq

/-- The bucket bounds that serve most clients. -/
def BundleConfig.usualBuckets : List Float :=
  [0.005, 0.01, 0.025, 0.05, 0.1, 0.25, 0.5, 1.0, 2.5, 5.0, 10.0]

/-- The usual bounds for both histograms. -/
def BundleConfig.usual : BundleConfig := ⟨usualBuckets, usualBuckets⟩

/-- A set of metrics that instruments a client. -/
structure Bundle where
  inFlight : Gauge
  requests : CounterFamily
  requestsOrder : LabelOrder
  duration : HistogramFamily
  durationOrder : LabelOrder
  hooks : HookTable
deriving DecidableEq

/-- The check of a response metric's names, with the note that it was passed. -/
def LabelOrder.checking (names : List String) : ExceptT LabelError Timed LabelOrder := do
  let order ← check names
  Timed.log (.validated order)
  return order

namespace Bundle

/-- Makes a bundle of metrics of its own and registers them.  Their labels are known
to be right and are not checked. -/
def register (config : BundleConfig) : StateM Inventory Bundle := do
  let inFlight ← Inventory.newGauge
    (some ⟨"in_flight_requests", "The number of HTTP requests currently being dispatched"⟩)
  let requests ← Inventory.newCounters
    (some ⟨"requests", "The total number of completed HTTP requests"⟩)
    [Label.code.name, Label.method.name]
  let duration ← Inventory.newHistograms
    (some ⟨"request_duration",
      "The time between dispatching an HTTP request and receiving its response"⟩)
    [Label.method.name] config.durationBuckets
  let events ← Inventory.newHistograms
    (some ⟨"trace_duration",
      "The time since an HTTP request was dispatched at which each connection " ++
      "lifecycle event occurred"⟩)
    [eventLabel] config.traceBuckets
  return {
    inFlight, requests, duration
    requestsOrder := ⟨[.code, .method], by decide⟩
    durationOrder := ⟨[.method], by decide⟩
    hooks := .observing (.family events) }

/-- Makes a bundle of existing metrics.  The labels of the counters are checked first,
then those of the durations and last those of the events. -/
def ofFamilies (inFlight : Gauge) (requests : CounterFamily)
    (duration events : HistogramFamily) : Except LabelError Bundle := do
  let requestsOrder ← LabelOrder.check requests.names
  let durationOrder ← LabelOrder.check duration.names
  let hooks ← HookTable.observeEvents (.family events)
  return { inFlight, requests, requestsOrder, duration, durationOrder, hooks }

/-- Makes a bundle of existing metrics, with the notes of the checks. -/
def assembling (inFlight : Gauge) (requests : CounterFamily) (duration events : HistogramFamily) :
    ExceptT LabelError Timed Bundle := do
  let requestsOrder ← LabelOrder.checking requests.names
  let durationOrder ← LabelOrder.checking duration.names
  let hooks ← HookTable.observeEvents (.family events)
  return { inFlight, requests, requestsOrder, duration, durationOrder, hooks }

/-- What is noted: each check that was passed, up to the first that was not. -/
def notes (requests : CounterFamily) (duration : HistogramFamily) : List LogRecord :=
  match LabelOrder.check requests.names with
  | .error _ => []
  | .ok requestsOrder =>
    match LabelOrder.check duration.names with
    | .error _ => [.validated requestsOrder]
    | .ok durationOrder => [.validated requestsOrder, .validated durationOrder]

/-- The notes make no difference to the bundle, or to the refusal. -/
theorem run_assembling (inFlight : Gauge) (requests : CounterFamily)
    (duration events : HistogramFamily) (now : Instant) :
    (assembling inFlight requests duration events).run.run now
      = ⟨ofFamilies inFlight requests duration events, now,
          (notes requests duration).map .log⟩ := by
  unfold assembling ofFamilies notes LabelOrder.checking
  cases LabelOrder.check requests.names with
  | error cause => rfl
  | ok requestsOrder =>
      cases LabelOrder.check duration.names with
      | error cause => rfl
      | ok durationOrder =>
          cases HookTable.observeEvents (.family events) with
          | error cause => rfl
          | ok hooks => rfl

/-- The bundle's layers, the outermost first. -/
def layers (bundle : Bundle) : Stack :=
  [.inFlight (.gauge bundle.inFlight),
   .record (.count (.family bundle.requests)) bundle.requestsOrder,
   .trace bundle.hooks,
   .record (.observe (.family bundle.duration)) bundle.durationOrder]

end Bundle

end Telemetry
