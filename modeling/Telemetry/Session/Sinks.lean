/-
The sinks of a session.

A session declares its sinks one after the other, each under a name: metrics of its
own, registered or not, probes, and bundles.  A bundle can be put together from sinks
declared before it.  Where a gauge is asked for, a bundle stands for its gauge of
requests in flight, and where a counter is asked for, for its counter of requests.
-/
import Telemetry.Bundle
import Telemetry.Table

namespace Telemetry.Session

/-- The declaration of a sink. -/
inductive SinkSpec
  | gauge (registration : Option Registration)
  | counters (registration : Option Registration) (names : List String)
  | histograms (registration : Option Registration) (names : List String) (bounds : List Float)
  /-- A probe that can be raised and lowered. -/
  | gaugeProbe
  /-- A probe that counts and observes. -/
  | probe (names : List String)
  /-- A bundle of metrics of its own. -/
  | bundle (config : BundleConfig)
  /-- A bundle of sinks declared before. -/
  | families (inFlight requests duration events : String)

/-- A declared sink. -/
inductive Sink
  | gauge (gauge : Gauge)
  | counters (family : CounterFamily)
  | histograms (family : HistogramFamily)
  | gaugeProbe (name : String)
  | probe (name : String) (names : List String)
  | bundle (bundle : Bundle)

namespace Sink

/-- The gauge that the sink stands for, if the store keeps it. -/
def storedGauge? : Sink → Option Gauge
  | gauge g => some g
  | bundle b => some b.inFlight
  | _ => none

/-- The counters that the sink stands for, if the store keeps them. -/
def storedCounters? : Sink → Option CounterFamily
  | counters f => some f
  | bundle b => some b.requests
  | _ => none

/-- The histograms that the sink stands for, if the store keeps them. -/
def storedHistograms? : Sink → Option HistogramFamily
  | histograms f => some f
  | _ => none

/-- The sink as a gauge sink. -/
def gaugeSink? : Sink → Option GaugeSink
  | gaugeProbe name => some (.probe name)
  | sink => sink.storedGauge?.map .gauge

/-- The sink as a counter sink. -/
def counterSink? : Sink → Option CounterSink
  | probe name names => some (.probe name names)
  | sink => sink.storedCounters?.map .family

/-- The sink as an observer sink. -/
def observerSink? : Sink → Option ObserverSink
  | probe name names => some (.probe name names)
  | sink => sink.storedHistograms?.map .family

/-- The sink as a bundle. -/
def bundle? : Sink → Option Bundle
  | bundle b => some b
  | _ => none

/-- The label names that the sink declares. -/
def names? : Sink → Option (List String)
  | histograms f => some f.names
  | sink => sink.counterSink?.map CounterSink.names

end Sink

/-- What is wrong with a session's declarations. -/
inductive SetupError
  /-- The sink at this place was refused for its labels. -/
  | sink (place : Nat) (cause : LabelError)
  /-- A part of a stack was refused for the labels of its sink. -/
  | layer (stack place : Nat) (cause : LabelError)
  /-- No sink of that name can be used in this way. -/
  | noSink (name : String)
deriving DecidableEq

/-- The sinks declared so far. -/
structure Sinks where
  inventory : Inventory
  table : Table String Sink
  /-- What was written to the log on the way. -/
  log : List LogRecord

namespace Sinks

/-- No sinks. -/
def empty : Sinks := ⟨.empty, .empty, []⟩

/-- The sink of that name, taken for a certain use. -/
def find {α : Type} (sinks : Sinks) (use : Sink → Option α) (name : String) :
    Except SetupError α :=
  match (sinks.table.get? name).bind use with
  | none => .error (.noSink name)
  | some a => .ok a

/-- Makes new metrics for a sink. -/
def make (sinks : Sinks) (name : String) (work : StateM Inventory Sink) : Sinks :=
  let (sink, inventory) := work.run sinks.inventory
  { sinks with inventory, table := sinks.table.insert name sink }

/-- Declares the sink at a place in the list of declarations. -/
def declare (sinks : Sinks) (place : Nat) (name : String) : SinkSpec → Except SetupError Sinks
  | .gauge registration =>
    .ok (sinks.make name (Sink.gauge <$> Inventory.newGauge registration))
  | .counters registration names =>
    .ok (sinks.make name (Sink.counters <$> Inventory.newCounters registration names))
  | .histograms registration names bounds =>
    .ok (sinks.make name (Sink.histograms <$> Inventory.newHistograms registration names bounds))
  | .gaugeProbe => .ok (sinks.make name (pure (.gaugeProbe name)))
  | .probe names => .ok (sinks.make name (pure (.probe name names)))
  | .bundle config => .ok (sinks.make name (Sink.bundle <$> Bundle.register config))
  | .families inFlight requests duration events => do
    let inFlight ← sinks.find Sink.storedGauge? inFlight
    let requests ← sinks.find Sink.storedCounters? requests
    let duration ← sinks.find Sink.storedHistograms? duration
    let events ← sinks.find Sink.storedHistograms? events
    match Bundle.ofFamilies inFlight requests duration events with
    | .error cause => .error (.sink place cause)
    | .ok bundle =>
      .ok { sinks with
        table := sinks.table.insert name (.bundle bundle)
        log := sinks.log ++
          [.validated bundle.requestsOrder, .validated bundle.durationOrder] }

/-- Declares sinks in order, the first of them at a place. -/
def declareFrom (sinks : Sinks) (place : Nat) :
    List (String × SinkSpec) → Except SetupError Sinks
  | [] => .ok sinks
  | (name, spec) :: rest => do (← sinks.declare place name spec).declareFrom (place + 1) rest

/-- The values of the sinks' gauges, by name. -/
def gauges (sinks : Sinks) : List (String × Gauge) :=
  sinks.table.entries.filterMap fun (name, sink) =>
    sink.storedGauge?.map fun gauge => (name, gauge)

end Sinks

end Telemetry.Session
