/-
The order in which a response metric wants its label values.

A metric's declaration is checked once, when the metric is put to use, and what the
check leaves behind is the order of the declared labels.  No label occurs twice in
it, so it never holds more than two, and from then on the values of any response can
be laid out for the metric without looking at names again.
-/
import Telemetry.Label.Basic
import Telemetry.Text.Listed

namespace Telemetry

/-- Labels in declared order, none of them twice. -/
structure LabelOrder where
  labels : List Label
  nodup : labels.Nodup := by decide
deriving DecidableEq

namespace LabelOrder

/-- The order with one more label at its end. -/
def push (order : LabelOrder) (label : Label) (fresh : label ∉ order.labels) : LabelOrder where
  labels := order.labels ++ [label]
  nodup := by
    rw [List.nodup_append]
    refine ⟨order.nodup, by simp, ?_⟩
    rintro a ha b hb rfl
    exact fresh (by simpa using List.mem_singleton.mp hb ▸ ha)

/-- Reads the remaining names behind the labels that were already read. -/
def checkFrom (order : LabelOrder) : List String → Except LabelError LabelOrder
  | [] => .ok order
  | name :: rest =>
    match Label.ofName name with
    | .error error => .error error
    | .ok label =>
      if fresh : label ∈ order.labels then .error (.duplicate name)
      else checkFrom (order.push label fresh) rest

/-- The order that a metric declares by its label names.  The first name that is not
a label, or repeats one, is the error. -/
def check (names : List String) : Except LabelError LabelOrder :=
  checkFrom ⟨[], by simp⟩ names

/-- The declared names, in order. -/
def names (order : LabelOrder) : List String := order.labels.map Label.name

/-- Whether the metric is partitioned by status code. -/
def hasCode (order : LabelOrder) : Bool := order.labels.contains .code

/-- Whether the metric is partitioned by method. -/
def hasMethod (order : LabelOrder) : Bool := order.labels.contains .method

/-- The values of one response in the order the metric wants them. -/
def values (order : LabelOrder) (code method : String) : List String :=
  order.labels.map fun
    | .code => code
    | .method => method

/-- The two places an order has room for, the unused ones empty. -/
def slots (order : LabelOrder) : List (Option Label) :=
  [order.labels[0]?, order.labels[1]?]

/-- The order with its two places, as a person reads it. -/
def text (order : LabelOrder) : String :=
  let slot : Option Label → String
    | none => "None"
    | some label => "Some(" ++ label.title ++ ")"
  Text.record "LabelOrder" "labels" (Text.bracketed (order.slots.map slot))

end LabelOrder

end Telemetry
