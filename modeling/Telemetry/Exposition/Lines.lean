/-
The exposition: registered metrics as lines of text.

The metrics stand in the order of their registration.  Each is announced by its help
text, its type and, if it measures seconds, its unit; then come its values.  A family
shows the series that were touched, in the order of their lines, and an untouched
family shows none.  Help texts and label values are written as they are, line breaks
included.
-/
import Telemetry.Exposition.Arrangement
import Telemetry.Exposition.Number
import Telemetry.Inventory
import Telemetry.Metric.Store

namespace Telemetry.Exposition

/-- One label with its value. -/
def label (name value : String) : String := name ++ "=\"" ++ value ++ "\""

/-- Labels with their values, separated by commas. -/
def labelList (labels : Labels) : String :=
  ",".intercalate (labels.map fun (name, value) => label name value)

/-- One sample: a name, labels in braces and a value. -/
def sample (name labels value : String) : String :=
  name ++ "\x7b" ++ labels ++ "\x7d " ++ value

/-- A bucket bound; the one behind all given bounds stands for infinity. -/
def bound (value : Float) : String :=
  if value == Bucket.lastBound then "+Inf" else numberFormat.write value

/-- The line of one counter. -/
def counterLines (name : String) (labels : Labels) (value : UInt64) : List String :=
  [sample (name ++ "_total") (labelList labels) (toString value.toNat)]

/-- The lines of one histogram: its sum, its count, and for each bucket the number of
observations up to its bound. -/
def histogramLines (name : String) (labels : Labels) (histogram : Histogram) : List String :=
  let shared := labelList labels
  sample (name ++ "_sum") shared (numberFormat.write histogram.sum) ::
  sample (name ++ "_count") shared (toString histogram.count) ::
  histogram.cumulative.map fun (limit, count) =>
    sample (name ++ "_bucket") (label "le" (bound limit) ++ "," ++ shared) (toString count)

/-- The series of one family. -/
def seriesOf {α : Type} (family : MetricId) (table : Table SeriesKey α) : List (Labels × α) :=
  table.entries.filterMap fun (key, value) =>
    if key.family = family then some (key.labels, value) else none

/-- The lines that announce a metric. -/
def announcement (name help type : String) : List String :=
  ["# HELP " ++ name ++ " " ++ help ++ ".", "# TYPE " ++ name ++ " " ++ type]

/-- The lines of one registered metric, a family's series in the order of their first
use. -/
def metricLines (store : Store) (registration : Registration) : Metric → List String
  | .gauge gauge =>
    let name := registration.name
    announcement name registration.help "gauge" ++
      [name ++ " " ++ toString (store.gauge gauge).toInt]
  | .counters family =>
    let name := registration.name
    announcement name registration.help "counter" ++
      (seriesOf family.id store.counters).flatMap fun (labels, value) =>
        counterLines name labels value
  | .histograms family =>
    let name := registration.name ++ "_seconds"
    announcement name registration.help "histogram" ++
      ("# UNIT " ++ name ++ " seconds") ::
      (seriesOf family.id store.histograms).flatMap fun (labels, histogram) =>
        histogramLines name labels histogram

/-- The lines of all registered metrics and the one that ends the exposition. -/
def writtenLines (inventory : Inventory) (store : Store) : List String :=
  inventory.registered.flatMap (fun (registration, metric) =>
    metricLines store registration metric) ++ ["# EOF"]

/-- The whole exposition. -/
def lines (inventory : Inventory) (store : Store) : List String :=
  arranged ((writtenLines inventory store).flatMap shownLines)

end Telemetry.Exposition
