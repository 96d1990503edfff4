/-
Two places are enough for the labels of a metric.

An order of labels can be kept in two places, filled from the front, and so can the values
of a response.  Both are written to without first asking whether there is a place left, so
a write may in principle fall outside.  It never does.  A third name is either no label or
one that was there before, and is refused before anything is written for it; and as many
values are written as there are labels.  So reading names into places is reading them into
an order, and the values that come out of the places are those of the order.
-/
import Telemetry.Proofs.Wiring

namespace Telemetry

/-- Why nothing comes of reading or writing places. -/
inductive Halt
  /-- A name was refused. -/
  | refused (cause : LabelError)
  /-- A place was asked for that does not exist. -/
  | outOfBounds
deriving DecidableEq

/-- Writes to one of two places. -/
def writePlace {α : Type} (places : Vector α 2) (place : Nat) (value : α) :
    Except Halt (Vector α 2) :=
  if h : place < 2 then .ok (places.set place value) else .error .outOfBounds

/-! ### Labels in two places -/

/-- Labels in two places, the unused ones empty. -/
abbrev LabelSlots := Vector (Option Label) 2

namespace LabelSlots

/-- Reads names into the places from some place on. -/
def checkFrom (slots : LabelSlots) (place : Nat) : List String → Except Halt LabelSlots
  | [] => .ok slots
  | name :: rest =>
    match Label.ofName name with
    | .error cause => .error (.refused cause)
    | .ok label =>
      if some label ∈ slots then .error (.refused (.duplicate name))
      else
        match writePlace slots place (some label) with
        | .error halt => .error halt
        | .ok slots => checkFrom slots (place + 1) rest

/-- Reads the names that a metric declares into two places. -/
def check (names : List String) : Except Halt LabelSlots := checkFrom #v[none, none] 0 names

end LabelSlots

namespace LabelOrder

/-- The order's labels in two places. -/
def slotted (order : LabelOrder) : LabelSlots := #v[order.labels[0]?, order.labels[1]?]

/-- An order holds no label, one, or two that differ. -/
theorem labels_cases (order : LabelOrder) :
    order.labels = [] ∨ (∃ label, order.labels = [label]) ∨
      ∃ first second, first ≠ second ∧ order.labels = [first, second] := by
  obtain ⟨labels, hnodup⟩ := order
  match labels, hnodup with
  | [], _ => exact .inl rfl
  | [label], _ => exact .inr (.inl ⟨label, rfl⟩)
  | [first, second], h => exact .inr (.inr ⟨first, second, by simpa using h, rfl⟩)
  | first :: second :: third :: rest, h =>
      exfalso
      cases first <;> cases second <;> cases third <;> simp at h

theorem mem_slotted (order : LabelOrder) (label : Label) :
    some label ∈ order.slotted ↔ label ∈ order.labels := by
  obtain hnone | ⟨one, hone⟩ | ⟨first, second, -, htwo⟩ := order.labels_cases
  · simp [slotted, hnone]
  · simp [slotted, hone]
  · simp [slotted, htwo]

/-- For a label that the order does not hold there is a place left. -/
theorem writePlace_slotted (order : LabelOrder) {label : Label} (hfresh : label ∉ order.labels) :
    writePlace order.slotted order.labels.length (some label)
      = .ok (order.push label hfresh).slotted := by
  obtain hnone | ⟨one, hone⟩ | ⟨first, second, hne, htwo⟩ := order.labels_cases
  · simp [writePlace, slotted, push, hnone]
  · simp [writePlace, slotted, push, hone]
  · -- Two labels that differ are all the labels there are.
    rw [htwo] at hfresh
    cases first <;> cases second <;> cases label <;> simp_all

theorem slotted_checkFrom (order : LabelOrder) (names : List String) :
    LabelSlots.checkFrom order.slotted order.labels.length names
      = match order.checkFrom names with
        | .error cause => .error (.refused cause)
        | .ok checked => .ok checked.slotted := by
  induction names generalizing order with
  | nil => rfl
  | cons name rest ih =>
      rw [LabelSlots.checkFrom, checkFrom]
      cases hlabel : Label.ofName name with
      | error cause => rfl
      | ok label =>
          by_cases hfresh : label ∈ order.labels
          · simp [mem_slotted, hfresh]
          · have hrest := ih (order.push label hfresh)
            have hlength : (order.push label hfresh).labels.length = order.labels.length + 1 := by
              simp [push]
            rw [hlength] at hrest
            simp [mem_slotted, hfresh, writePlace_slotted, hrest]

/-- Reading names into places comes to reading them into an order; no write falls
outside. -/
theorem slotted_check (names : List String) :
    LabelSlots.check names
      = match check names with
        | .error cause => .error (.refused cause)
        | .ok order => .ok order.slotted :=
  slotted_checkFrom ⟨[], by simp⟩ names

end LabelOrder

/-! ### Values in two places -/

/-- Values in two places, and how many of the places are used. -/
structure ValueSlots where
  values : Vector String 2
  length : Nat

namespace ValueSlots

/-- One more value, behind the others. -/
def push (slots : ValueSlots) (value : String) : Except Halt ValueSlots :=
  match writePlace slots.values slots.length value with
  | .error halt => .error halt
  | .ok values => .ok ⟨values, slots.length + 1⟩

/-- The values in the places that are used. -/
def used (slots : ValueSlots) : Except Halt (List String) :=
  if slots.length ≤ 2 then .ok (slots.values.toList.take slots.length) else .error .outOfBounds

end ValueSlots

/-- The values of one response, for the labels in two places. -/
def LabelSlots.values (slots : LabelSlots) (code method : String) : Except Halt (List String) := do
  let filled ← (slots.toList.filterMap id).foldlM
    (fun filled label => filled.push (match label with
      | .code => code
      | .method => method))
    (⟨#v["", ""], 0⟩ : ValueSlots)
  filled.used

/-- The values that come out of the places are those of the order; no write falls
outside. -/
theorem LabelOrder.slotted_values (order : LabelOrder) (code method : String) :
    order.slotted.values code method = .ok (order.values code method) := by
  obtain hnone | ⟨one, hone⟩ | ⟨first, second, -, htwo⟩ := order.labels_cases
  · simp [LabelSlots.values, slotted, values, hnone]
    rfl
  · simp [LabelSlots.values, slotted, values, hone]
    rfl
  · simp [LabelSlots.values, slotted, values, htwo]
    rfl

end Telemetry
