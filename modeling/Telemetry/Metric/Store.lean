/-
The store of metric values.

The store keeps the value of every gauge, and for every family the series that were
ever touched: one counter or histogram for each list of label values.  A series is
found under the family's label names, each paired with the value given in its place;
so two lists of values lead to one series exactly if they agree in every place.

The number of values must be the number of names.  If it is not, nothing happens to
the store.
-/
import Telemetry.Effect
import Telemetry.Metric.Histogram
import Telemetry.Table

namespace Telemetry

/-- Label names with their values. -/
abbrev Labels := List (String × String)

/-- Label values were given that do not match the label names in number. -/
structure LabelMismatch where
  names : Nat
  values : Nat
deriving DecidableEq

/-- The message shown for the mismatch. -/
def LabelMismatch.message (mismatch : LabelMismatch) : String :=
  "assertion \x60left == right\x60 failed: label values must match label names\n  left: " ++
  toString mismatch.names ++ "\n right: " ++ toString mismatch.values

/-- Label names paired with their values. -/
def Labels.of (names values : List String) : Except LabelMismatch Labels :=
  if names.length = values.length then .ok (names.zip values)
  else .error ⟨names.length, values.length⟩

/-- What a series is found under. -/
structure SeriesKey where
  family : MetricId
  labels : Labels
deriving DecidableEq

/-- The values of all metrics. -/
structure Store where
  gauges : Table MetricId Int64
  counters : Table SeriesKey UInt64
  histograms : Table SeriesKey Histogram

namespace Store

/-- The store in which nothing was touched yet. -/
def empty : Store := ⟨.empty, .empty, .empty⟩

/-- The value of a gauge. -/
def gauge (store : Store) (gauge : Gauge) : Int64 := (store.gauges.get? gauge.id).getD 0

/-- Adds to a gauge. -/
def shift (store : Store) (gauge : Gauge) (amount : Int64) : Store :=
  { store with gauges := store.gauges.alter gauge.id fun value => value.getD 0 + amount }

/-- The counter of a family under some labels, if it was ever touched. -/
def counter? (store : Store) (family : CounterFamily) (labels : Labels) : Option UInt64 :=
  store.counters.get? ⟨family.id, labels⟩

/-- The histogram of a family under some labels, if it was ever touched. -/
def histogram? (store : Store) (family : HistogramFamily) (labels : Labels) :
    Option Histogram :=
  store.histograms.get? ⟨family.id, labels⟩

/-- Adds to the counter under some label values.  The counter exists from then on. -/
def count (store : Store) (family : CounterFamily) (values : List String) (amount : UInt64) :
    Except LabelMismatch Store := do
  let labels ← Labels.of family.names values
  return { store with
    counters := store.counters.alter ⟨family.id, labels⟩ fun value => value.getD 0 + amount }

/-- Reads the counter under some label values.  A counter that did not exist does so
from then on, at zero. -/
def read (store : Store) (family : CounterFamily) (values : List String) :
    Except LabelMismatch (UInt64 × Store) := do
  let labels ← Labels.of family.names values
  let store ← store.count family values 0
  return ((store.counter? family labels).getD 0, store)

/-- Makes an observation under some label values.  The histogram there is made on its
first observation, with the family's bounds. -/
def observe (store : Store) (family : HistogramFamily) (value : Float)
    (values : List String) : Except LabelMismatch Store := do
  let labels ← Labels.of family.names values
  return { store with
    histograms := store.histograms.alter ⟨family.id, labels⟩ fun histogram =>
      (histogram.getD (.new family.bounds)).observe value }

/-- Makes good on an effect.  Only effects on stored metrics concern the store. -/
def apply (store : Store) : Effect → Except LabelMismatch Store
  | .raise (.gauge gauge) => .ok (store.shift gauge 1)
  | .lower (.gauge gauge) => .ok (store.shift gauge (-1))
  | .count (.family family) values => store.count family values 1
  | .observe (.family family) reading values => store.observe family reading.seconds values
  | _ => .ok store

/-- Makes good on effects, in order. -/
def applyAll (store : Store) (effects : List Effect) : Except LabelMismatch Store :=
  effects.foldlM apply store

end Store

end Telemetry
