/-
Which metrics there are.

Every metric that is made gets a number of its own, and a metric may be registered
under a name and a help text, in which case the exposition shows it.  The inventory
keeps both in the order in which the metrics were made.  Registered names need not
differ from one another.
-/
import Telemetry.Sink

namespace Telemetry

/-- How a metric is announced in the exposition. -/
structure Registration where
  name : String
  help : String
deriving DecidableEq

/-- A metric of any kind. -/
inductive Metric
  | gauge (gauge : Gauge)
  | counters (family : CounterFamily)
  | histograms (family : HistogramFamily)
deriving DecidableEq

/-- The metrics made so far. -/
structure Inventory where
  /-- The number of the next metric. -/
  next : MetricId
  /-- The registered metrics, in order of registration. -/
  registered : List (Registration × Metric)

namespace Inventory

/-- The inventory without metrics. -/
def empty : Inventory := ⟨0, []⟩

/-- Takes the next number. -/
def takeId : StateM Inventory MetricId := fun inventory =>
  (inventory.next, { inventory with next := inventory.next + 1 })

/-- Registers a metric if it has a registration. -/
def register (registration : Option Registration) (metric : Metric) : StateM Inventory Unit :=
  match registration with
  | none => pure ()
  | some registration => modify fun inventory =>
    { inventory with registered := inventory.registered ++ [(registration, metric)] }

/-- Makes a gauge. -/
def newGauge (registration : Option Registration) : StateM Inventory Gauge := do
  let gauge : Gauge := ⟨← takeId⟩
  register registration (.gauge gauge)
  return gauge

/-- Makes a family of counters. -/
def newCounters (registration : Option Registration) (names : List String) :
    StateM Inventory CounterFamily := do
  let family : CounterFamily := ⟨← takeId, names⟩
  register registration (.counters family)
  return family

/-- Makes a family of histograms. -/
def newHistograms (registration : Option Registration) (names : List String)
    (bounds : List Float) : StateM Inventory HistogramFamily := do
  let family : HistogramFamily := ⟨← takeId, names, bounds⟩
  register registration (.histograms family)
  return family

end Inventory

end Telemetry
