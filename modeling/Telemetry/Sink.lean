/-
Where recordings go.

A gauge, a family of counters and a family of histograms are known by a number, under
which the store keeps their values, and by what they declare: the names of their
labels, and for histograms the bounds of their buckets.  Copies of such a handle all
lead to the same values.

Instrumentation does not insist on these.  It raises and lowers anything that is a
gauge sink, counts in anything that is a counter sink, and so on; besides the stored
metrics there is a probe of each kind, which keeps nothing and merely shows what it
was told.
-/
import Telemetry.Time

namespace Telemetry

/-- The number under which the store keeps a metric. -/
abbrev MetricId := Nat

/-- A gauge that the store keeps. -/
structure Gauge where
  id : MetricId
deriving DecidableEq

/-- A family of counters that the store keeps. -/
structure CounterFamily where
  id : MetricId
  /-- The label names, in the order in which values are given. -/
  names : List String
deriving DecidableEq

/-- A family of histograms that the store keeps. -/
structure HistogramFamily where
  id : MetricId
  /-- The label names, in the order in which values are given. -/
  names : List String
  /-- The upper bounds of the buckets of each histogram. -/
  bounds : List Float
deriving DecidableEq

/-- Something that can be raised and lowered. -/
inductive GaugeSink
  | gauge (gauge : Gauge)
  | probe (name : String)
deriving DecidableEq

/-- Something that counts, apart for each list of label values. -/
inductive CounterSink
  | family (family : CounterFamily)
  | probe (name : String) (labels : List String)
deriving DecidableEq

/-- Something that observes readings, apart for each list of label values. -/
inductive ObserverSink
  | family (family : HistogramFamily)
  | probe (name : String) (labels : List String)
deriving DecidableEq

/-- The label names that the sink declares. -/
def CounterSink.names : CounterSink → List String
  | family f => f.names
  | probe _ labels => labels

/-- The label names that the sink declares. -/
def ObserverSink.names : ObserverSink → List String
  | family f => f.names
  | probe _ labels => labels

/-- What an observer is given: a time that was measured, or a number as it is. -/
inductive Reading
  /-- A measured time, not yet rounded to a number of seconds. -/
  | elapsed (duration : Duration)
  | number (value : Float)
deriving DecidableEq

/-- The reading as a number, times in seconds. -/
def Reading.seconds : Reading → Float
  | elapsed duration => duration.seconds
  | number value => value

end Telemetry
