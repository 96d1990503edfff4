/-
Hooks: what happens when a phase is reached.

A hook is given the reading taken at its phase.  A hook table has a place for each
phase, found by the phase's index, and each place is empty or holds one hook.  A table
made for an observer has every place filled, and each hook observes its reading under
the name of its own phase.
-/
import Telemetry.Effect

namespace Telemetry

/-- What to do with the reading taken when a phase is reached. -/
inductive Hook
  /-- Write it down under a tag, together with a phase. -/
  | note (tag : String) (phase : Phase)
  /-- Have an observer observe it, under these label values. -/
  | observe (sink : ObserverSink) (values : List String)
deriving DecidableEq

/-- The effect of calling the hook with a reading. -/
def Hook.call : Hook → Reading → Effect
  | note tag phase, reading => .note tag phase reading
  | observe sink values, reading => .observe sink reading values

/-- At most one hook for each phase. -/
structure HookTable where
  places : Vector (Option Hook) 13
deriving DecidableEq

namespace HookTable

/-- The table without hooks. -/
def empty : HookTable := ⟨Vector.replicate 13 none⟩

/-- The hook set for a phase, if one is set. -/
def hook? (table : HookTable) (phase : Phase) : Option Hook := table.places[phase.index]

/-- The table with a hook for a phase, in place of any that was set for it. -/
def on (table : HookTable) (phase : Phase) (hook : Hook) : HookTable :=
  ⟨table.places.set phase.index (some hook)⟩

/-- The phases with hooks, in order. -/
def phases (table : HookTable) : List Phase :=
  Phase.all.filter fun phase => (table.hook? phase).isSome

/-- The table that has an observer observe every phase, under the phase's name.  The
observer's labels are not looked at. -/
def observing (sink : ObserverSink) : HookTable :=
  Phase.all.foldl (fun table phase => table.on phase (.observe sink [phase.name])) empty

/-- The table that has an observer observe every phase, if the observer is
partitioned by the event and nothing else. -/
def observeEvents (sink : ObserverSink) : Except LabelError HookTable :=
  match checkEventLabel sink.names with
  | .error error => .error error
  | .ok () => .ok (observing sink)

/-- The phases with hooks, as a person reads them. -/
def text (table : HookTable) (breadth : Text.Breadth) : String :=
  Text.braced breadth (table.phases.map Phase.title)

/-! ### Setting a hook changes its own phase only -/

@[simp] theorem hook?_empty (phase : Phase) : empty.hook? phase = none := by
  simp [hook?, empty]

theorem hook?_on (table : HookTable) (phase other : Phase) (hook : Hook) :
    (table.on phase hook).hook? other = if phase = other then some hook else table.hook? other := by
  by_cases h : phase = other
  · subst h; simp [hook?, on]
  · have hne : phase.index.val ≠ other.index.val :=
      fun e => h (Phase.index_injective (Fin.ext e))
    simp [hook?, on, h, hne]

end HookTable

end Telemetry
