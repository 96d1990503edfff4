/-
Where the hooks of a table come from.

Every table on a shelf was made, empty or for an observer, or is a copy of one that was
there, and since then hooks may have been set on it.  Its lineage is what came in on the
way: the observer that the first table on the way was made for, and the hooks that were
set on the way, in order.  A copy takes its original's lineage over, and the two go their
own ways from there.

A table is its lineage carried out, and this is kept by each step.  So the hook for a phase
is the last one that was set for it on the way; and only which phases were set matters for
the list of phases, not in which order.
-/
import Telemetry.Proofs.Wiring
import Telemetry.Shelf.Hooks

namespace Telemetry

/-! ### The hooks that a lineage leaves -/

/-- How a hook table came about. -/
structure Lineage where
  /-- The observer that the first table on the way was made for, if it was made for one. -/
  observer : Option ObserverSink
  /-- The hooks that were set on the way, in order. -/
  hooks : List (Phase × Hook)

namespace Lineage

/-- The hook that is left for a phase, if one is. -/
inductive Leaves (lineage : Lineage) (phase : Phase) : Option Hook → Prop
  /-- The last hook that was set for the phase. -/
  | last {hook : Hook} {earlier later : List (Phase × Hook)}
    (set : lineage.hooks = earlier ++ (phase, hook) :: later)
    (unset : ∀ one ∈ later, one.1 ≠ phase) : Leaves lineage phase (some hook)
  /-- The observer's own hook, if no other was set. -/
  | observing {sink : ObserverSink} (made : lineage.observer = some sink)
    (unset : ∀ one ∈ lineage.hooks, one.1 ≠ phase) :
    Leaves lineage phase (some (.observe sink [phase.name]))
  /-- None, if none was set and there is no observer. -/
  | none (made : lineage.observer = Option.none)
    (unset : ∀ one ∈ lineage.hooks, one.1 ≠ phase) : Leaves lineage phase Option.none

/-- The phases that have a hook, in the order of all phases. -/
def phases (lineage : Lineage) : List Phase :=
  Phase.all.filter fun phase =>
    lineage.observer.isSome || lineage.hooks.any fun one => one.1 = phase

/-- The lineage carried out. -/
def table (lineage : Lineage) : HookTable :=
  lineage.hooks.foldl (fun table one => table.on one.1 one.2)
    (match lineage.observer with
      | Option.none => .empty
      | some sink => .observing sink)

/-- Hooks for other phases leave a phase's hook alone. -/
theorem hook?_unset {later : List (Phase × Hook)} {phase : Phase}
    (hunset : ∀ one ∈ later, one.1 ≠ phase) (table : HookTable) :
    (later.foldl (fun table one => table.on one.1 one.2) table).hook? phase
      = table.hook? phase := by
  induction later generalizing table with
  | nil => rfl
  | cons one rest ih =>
      rw [List.foldl_cons, ih fun other hother => hunset other (List.mem_cons_of_mem _ hother),
        HookTable.hook?_on, if_neg (hunset one List.mem_cons_self)]

/-- The lineage carried out has the hooks that the lineage leaves. -/
theorem Leaves.hook?_table {lineage : Lineage} {phase : Phase} {hook : Option Hook}
    (hleaves : lineage.Leaves phase hook) : lineage.table.hook? phase = hook := by
  cases hleaves with
  | @last hook earlier later hset hunset =>
      rw [table, hset, List.foldl_append, List.foldl_cons, hook?_unset hunset, HookTable.hook?_on,
        if_pos rfl]
  | @observing sink hmade hunset =>
      rw [table, hook?_unset hunset, hmade]
      exact HookTable.hook?_observing sink phase
  | none hmade hunset =>
      rw [table, hook?_unset hunset, hmade]
      exact HookTable.hook?_empty phase

/-- Among hooks that were set, either none is for a phase or there is a last one. -/
theorem unset_or_last (hooks : List (Phase × Hook)) (phase : Phase) :
    (∀ one ∈ hooks, one.1 ≠ phase) ∨ ∃ earlier hook later,
      hooks = earlier ++ (phase, hook) :: later ∧ ∀ one ∈ later, one.1 ≠ phase := by
  induction hooks with
  | nil => exact .inl fun _ h => absurd h List.not_mem_nil
  | cons first rest ih =>
      rcases ih with hunset | ⟨earlier, hook, later, rfl, hlater⟩
      · by_cases hfirst : first.1 = phase
        · exact .inr ⟨[], first.2, rest, by rw [← hfirst]; rfl, hunset⟩
        · refine .inl fun one hone => ?_
          rcases List.mem_cons.mp hone with rfl | hrest
          · exact hfirst
          · exact hunset one hrest
      · exact .inr ⟨first :: earlier, hook, later, rfl, hlater⟩

theorem hook?_table_iff (lineage : Lineage) (phase : Phase) (hook : Option Hook) :
    lineage.table.hook? phase = hook ↔ lineage.Leaves phase hook := by
  refine ⟨?_, Leaves.hook?_table⟩
  rintro rfl
  have hleft : ∃ left, lineage.Leaves phase left := by
    rcases unset_or_last lineage.hooks phase with hunset | ⟨earlier, hook, later, hset, hlater⟩
    · cases hmade : lineage.observer with
      | none => exact ⟨_, .none hmade hunset⟩
      | some sink => exact ⟨_, .observing hmade hunset⟩
    · exact ⟨_, .last hset hlater⟩
  obtain ⟨left, hleaves⟩ := hleft
  rw [hleaves.hook?_table]
  exact hleaves

/-- A phase has a hook if one was set for it, or if there is an observer. -/
theorem isSome_hook?_table (lineage : Lineage) (phase : Phase) :
    (lineage.table.hook? phase).isSome
      = (lineage.observer.isSome || lineage.hooks.any fun one => one.1 = phase) := by
  have hleaves := (lineage.hook?_table_iff phase _).mp rfl
  generalize lineage.table.hook? phase = left at hleaves
  cases hleaves with
  | last hset hunset => simp [hset]
  | observing hmade hunset => simp [hmade]
  | none hmade hunset => simpa [hmade] using hunset

/-- The phases of the lineage carried out. -/
theorem phases_table (lineage : Lineage) : lineage.table.phases = lineage.phases :=
  List.filter_congr fun phase _ => lineage.isSome_hook?_table phase

/-- Only which phases were set matters for the list of phases, not in which order. -/
theorem phases_congr {lineage other : Lineage}
    (hobserver : lineage.observer.isSome = other.observer.isSome)
    (hset : ∀ phase, phase ∈ lineage.hooks.map Prod.fst ↔ phase ∈ other.hooks.map Prod.fst) :
    lineage.phases = other.phases := by
  refine List.filter_congr fun phase _ => ?_
  have hany : ∀ hooks : List (Phase × Hook), (hooks.any fun one => one.1 = phase)
      = decide (phase ∈ hooks.map Prod.fst) := by
    intro hooks
    simp only [List.any_eq, List.mem_map, decide_eq_true_eq]
  rw [hobserver, hany, hany, decide_eq_decide.mpr (hset phase)]

/-! ### The lineages on a shelf -/

/-- The lineages of the tables on a shelf after a step. -/
def next (lineages : List Lineage) : HookShelf.Step → List Lineage
  | .new => lineages ++ [⟨Option.none, []⟩]
  | .copy number => lineages ++ lineages[number]?.toList
  | .observe sink =>
    if sink.names = ["event"] then lineages ++ [⟨some sink, []⟩] else lineages
  | .on number phase hook =>
    lineages.modify number fun lineage =>
      { lineage with hooks := lineage.hooks ++ [(phase, hook)] }
  | .call .. | .phases _ | .text .. => lineages

end Lineage

namespace HookTable

/-- What comes of making a table for an observer is settled by the observer's labels. -/
theorem observeEvents_eq (sink : ObserverSink) :
    observeEvents sink
      = if sink.names = ["event"] then .ok (observing sink) else .error (.notEvent sink.names) := by
  have hlabel : eventLabel = "event" := rfl
  rw [observeEvents, checkEventLabel, hlabel]
  by_cases hnames : sink.names = ["event"]
  · rw [if_pos hnames, if_pos hnames]
  · rw [if_neg hnames, if_neg hnames]

/-- Hooks for two phases can be set in either order. -/
theorem on_comm (table : HookTable) {phase other : Phase} (hne : phase ≠ other)
    (hook hook' : Hook) :
    (table.on phase hook).on other hook' = (table.on other hook').on phase hook := by
  have hindex : phase.index.val ≠ other.index.val :=
    fun h => hne (Phase.index_injective (Fin.ext h))
  simp only [on, mk.injEq]
  exact Vector.set_comm _ _ hindex

theorem mem_phases (table : HookTable) (phase : Phase) :
    phase ∈ table.phases ↔ (table.hook? phase).isSome := by
  rw [phases, List.mem_filter]
  exact and_iff_right phase.mem_all

theorem phases_ordered (table : HookTable) :
    table.phases.Pairwise fun phase later => phase.index < later.index := by
  have hall : Phase.all.Pairwise fun phase later => phase.index < later.index := by decide
  exact hall.filter _

end HookTable

namespace HookShelf

variable {shelf : HookShelf} {number : Nat} {table : HookTable}

/-! ### What each step does -/

theorem step_copy (htable : shelf.tables[number]? = some table) :
    shelf.step (.copy number) = shelf.add table := by
  simp only [step, htable]

theorem step_observe (shelf : HookShelf) (sink : ObserverSink) :
    shelf.step (.observe sink)
      = if sink.names = ["event"] then shelf.add (.observing sink)
        else ⟨.refused (.notEvent sink.names), shelf, []⟩ := by
  rw [step, HookTable.observeEvents_eq]
  by_cases hnames : sink.names = ["event"]
  · rw [if_pos hnames, if_pos hnames]
  · rw [if_neg hnames, if_neg hnames]

theorem step_on (htable : shelf.tables[number]? = some table) (phase : Phase) (hook : Hook) :
    shelf.step (.on number phase hook)
      = ⟨.done, ⟨shelf.tables.set number (table.on phase hook)⟩, []⟩ := by
  simp only [step, htable]

theorem step_call (htable : shelf.tables[number]? = some table) (phase : Phase)
    (reading : Reading) :
    shelf.step (.call number phase reading)
      = ⟨.flag (table.hook? phase).isSome, shelf,
          (table.hook? phase).toList.map (Hook.call · reading)⟩ := by
  simp only [step, htable]
  cases table.hook? phase <;> rfl

theorem step_phases (htable : shelf.tables[number]? = some table) :
    shelf.step (.phases number) = ⟨.phases table.phases, shelf, []⟩ := by
  simp only [step, htable]

theorem step_text (htable : shelf.tables[number]? = some table) (breadth : Text.Breadth) :
    shelf.step (.text number breadth) = ⟨.text (table.text breadth), shelf, []⟩ := by
  simp only [step, htable]

/-- Whether a step only asks. -/
def Step.Asks : Step → Prop
  | .call .. | .phases _ | .text .. => True
  | _ => False

/-- The table that a step is about, if it is about one. -/
def Step.table? : Step → Option Nat
  | .new | .observe _ => none
  | .copy number | .on number _ _ | .call number _ _ | .phases number | .text number _ =>
    some number

/-- The table that a step sets a hook on, if it sets one. -/
def Step.written? : Step → Option Nat
  | .on number _ _ => some number
  | _ => none

/-- Where there is no table, nothing happens. -/
theorem step_noTable (hnone : shelf.tables[number]? = none) {step : Step}
    (hstep : step.table? = some number) : shelf.step step = ⟨.noTable, shelf, []⟩ := by
  cases step with
  | new | observe sink => cases hstep
  | copy other | on other phase hook | call other phase reading | phases other
    | text other breadth =>
      cases hstep
      simp only [HookShelf.step, hnone]

/-- Asking changes nothing. -/
theorem shelf_asks (shelf : HookShelf) {step : Step} (hasks : step.Asks) :
    (shelf.step step).shelf = shelf := by
  have hcases : ∀ number, step.table? = some number →
      (∀ table, shelf.tables[number]? = some table → (shelf.step step).shelf = shelf) →
      (shelf.step step).shelf = shelf := by
    intro number hnumber hsome
    cases htable : shelf.tables[number]? with
    | none => rw [step_noTable htable hnumber]
    | some table => exact hsome table htable
  cases step with
  | new | copy _ | observe _ | on _ _ _ => exact hasks.elim
  | call number phase reading =>
      exact hcases number rfl fun table htable => by rw [step_call htable]
  | phases number => exact hcases number rfl fun table htable => by rw [step_phases htable]
  | text number breadth => exact hcases number rfl fun table htable => by rw [step_text htable]

/-! ### What one step keeps -/

/-- A table that no hook is set on stays as it is, under its number. -/
theorem getElem?_step (htable : shelf.tables[number]? = some table) {step : Step}
    (helsewhere : step.written? ≠ some number) :
    (shelf.step step).shelf.tables[number]? = some table := by
  -- New tables go behind the others, so they take no other's number.
  have hadd : ∀ other, (shelf.add other).shelf.tables[number]? = some table := by
    intro other
    rw [add, List.getElem?_append_left (List.getElem?_eq_some_iff.mp htable).1, htable]
  cases step with
  | new => exact hadd .empty
  | copy original =>
      cases horiginal : shelf.tables[original]? with
      | none => rw [step_noTable horiginal rfl, htable]
      | some copied => rw [step_copy horiginal, hadd]
  | observe sink =>
      rw [step_observe]
      by_cases hnames : sink.names = ["event"]
      · rw [if_pos hnames, hadd]
      · rw [if_neg hnames, htable]
  | on written phase hook =>
      have hne : written ≠ number := fun h => helsewhere (congrArg some h)
      cases hwritten : shelf.tables[written]? with
      | none => rw [step_noTable hwritten rfl, htable]
      | some before => rw [step_on hwritten, List.getElem?_set_ne hne, htable]
  | call | phases | text =>
      rw [shelf_asks shelf, htable]
      trivial

/-- Tables that are lineages carried out stay so. -/
theorem tables_step {kept : List Lineage} (htables : shelf.tables = kept.map Lineage.table)
    (step : Step) :
    (shelf.step step).shelf.tables = (Lineage.next kept step).map Lineage.table := by
  -- A number leads to a table just if it leads to a lineage.
  have hfound : ∀ number : Nat, shelf.tables[number]? = kept[number]?.map Lineage.table := by
    intro number
    rw [htables, List.getElem?_map]
  cases step with
  | new => simp [HookShelf.step, add, Lineage.next, htables, Lineage.table]
  | copy number =>
      cases hkept : kept[number]? with
      | none =>
          rw [step_noTable (by rw [hfound, hkept]; rfl) rfl, htables]
          simp [Lineage.next, hkept]
      | some lineage =>
          rw [step_copy (by rw [hfound, hkept]; rfl)]
          simp [add, Lineage.next, hkept, htables]
  | observe sink =>
      rw [step_observe, Lineage.next]
      by_cases hnames : sink.names = ["event"]
      · rw [if_pos hnames, if_pos hnames]
        simp [add, htables, Lineage.table]
      · rw [if_neg hnames, if_neg hnames]
        exact htables
  | on number phase hook =>
      cases hkept : kept[number]? with
      | none =>
          have hlength : kept.length ≤ number := List.getElem?_eq_none_iff.mp hkept
          rw [step_noTable (by rw [hfound, hkept]; rfl) rfl, htables, Lineage.next,
            List.modify_eq_self hlength]
      | some lineage =>
          obtain ⟨hlength, rfl⟩ := List.getElem?_eq_some_iff.mp hkept
          rw [step_on (by rw [hfound, hkept]; rfl), Lineage.next]
          refine List.ext_getElem? fun other => ?_
          rw [List.getElem?_set, htables, List.getElem?_map, List.getElem?_map,
            List.getElem?_modify]
          by_cases hother : number = other
          · subst hother
            simp [hlength, Lineage.table]
          · simp [hother]
  | call | phases | text =>
      rw [shelf_asks shelf, htables, Lineage.next]
      trivial

/-! ### What a run keeps -/

/-- The shelf after some steps. -/
def after (shelf : HookShelf) (steps : List Step) : HookShelf :=
  steps.foldl (fun shelf step => (shelf.step step).shelf) shelf

/-- The lineages of the tables after some steps. -/
def lineages (steps : List Step) : List Lineage := steps.foldl Lineage.next [⟨none, []⟩]

/-- A run goes on from the shelf that its first steps left. -/
theorem run_append (shelf : HookShelf) (steps later : List Step) :
    shelf.run (steps ++ later) = shelf.run steps ++ (shelf.after steps).run later := by
  induction steps generalizing shelf with
  | nil => rfl
  | cons step rest ih =>
      rw [List.cons_append, run, run, ih, List.cons_append]
      rfl

/-- The tables are their lineages carried out. -/
theorem tables_after (steps : List Step) :
    (start.after steps).tables = (lineages steps).map Lineage.table := by
  induction steps using List.reverseRecOn with
  | nil => rfl
  | append_singleton init last ih =>
      rw [after, lineages, List.foldl_append, List.foldl_append]
      exact tables_step ih last

theorem getElem?_after (htable : shelf.tables[number]? = some table) {later : List Step}
    (helsewhere : ∀ step ∈ later, step.written? ≠ some number) :
    (shelf.after later).tables[number]? = some table := by
  induction later generalizing shelf with
  | nil => exact htable
  | cons step rest ih =>
      exact ih (getElem?_step htable (helsewhere step List.mem_cons_self))
        fun other hother => helsewhere other (List.mem_cons_of_mem _ hother)

/-! ### What a table is by its lineage -/

/-- What there is to know about a table on the shelf that some steps leave. -/
structure Kept (steps : List Step) (number : Nat) (table : HookTable) (lineage : Lineage) :
    Prop where
  /-- The hook for a phase is the last that was set for it on the way. -/
  hooks : ∀ phase hook, table.hook? phase = hook ↔ lineage.Leaves phase hook
  /-- A call calls that hook, once. -/
  called : ∀ phase reading, (start.after steps).step (.call number phase reading)
    = ⟨.flag (table.hook? phase).isSome, start.after steps,
        (table.hook? phase).toList.map (Hook.call · reading)⟩
  /-- The phases that are listed are those with a hook. -/
  listed : ∀ phase, phase ∈ table.phases ↔ (table.hook? phase).isSome
  /-- They are listed in their own order, so none of them twice. -/
  ordered : table.phases.Pairwise fun phase later => phase.index < later.index
  asked : (start.after steps).step (.phases number)
    = ⟨.phases table.phases, start.after steps, []⟩
  shown : ∀ breadth, (start.after steps).step (.text number breadth)
    = ⟨.text (Text.braced breadth (table.phases.map Phase.title)), start.after steps, []⟩
  /-- Setting a hook changes its own phase of its own table. -/
  set : ∀ phase hook, ∃ changed : HookTable,
    (start.after steps).step (.on number phase hook)
      = ⟨.done, ⟨(start.after steps).tables.set number changed⟩, []⟩ ∧
    changed.hook? phase = some hook ∧
    ∀ other, other ≠ phase → changed.hook? other = table.hook? other
  /-- Hooks for two phases can be set in either order. -/
  commute : ∀ phase other hook hook', phase ≠ other →
    start.after (steps ++ [.on number phase hook, .on number other hook'])
      = start.after (steps ++ [.on number other hook', .on number phase hook])
  /-- The table stays as it is while no hook is set on it. -/
  stays : ∀ later : List Step, (∀ step ∈ later, step.written? ≠ some number) →
    (start.after (steps ++ later)).tables[number]? = some table
  /-- A copy gets the next number, and is the table as it was when it was copied. -/
  copied : (start.after steps).step (.copy number)
      = ⟨.index (start.after steps).tables.length, ⟨(start.after steps).tables ++ [table]⟩, []⟩ ∧
    ∀ later : List Step,
      (∀ step ∈ later, step.written? ≠ some (start.after steps).tables.length) →
      (start.after (steps ++ .copy number :: later)).tables[(start.after steps).tables.length]?
        = some table

theorem after_append (shelf : HookShelf) (steps later : List Step) :
    shelf.after (steps ++ later) = (shelf.after steps).after later :=
  List.foldl_append

theorem after_cons (shelf : HookShelf) (step : Step) (later : List Step) :
    shelf.after (step :: later) = (shelf.step step).shelf.after later := rfl

/-- Hooks for two phases of a table can be set in either order. -/
theorem after_on_comm (htable : shelf.tables[number]? = some table) {phase other : Phase}
    (hne : phase ≠ other) (hook hook' : Hook) :
    shelf.after [.on number phase hook, .on number other hook']
      = shelf.after [.on number other hook', .on number phase hook] := by
  have hlength : number < shelf.tables.length := (List.getElem?_eq_some_iff.mp htable).1
  have htwice : ∀ (phase other : Phase) (hook hook' : Hook),
      shelf.after [.on number phase hook, .on number other hook']
        = ⟨shelf.tables.set number ((table.on phase hook).on other hook')⟩ := by
    intro phase other hook hook'
    rw [after_cons, after_cons, step_on htable,
      step_on (List.getElem?_set_self hlength), List.set_set]
    rfl
  rw [htwice, htwice, table.on_comm hne]

theorem kept {steps : List Step} {lineage : Lineage}
    (hlineage : (lineages steps)[number]? = some lineage) :
    Kept steps number lineage.table lineage := by
  have htable : (start.after steps).tables[number]? = some lineage.table := by
    rw [tables_after, List.getElem?_map, hlineage]
    rfl
  refine
    { hooks := lineage.hook?_table_iff
      called := step_call htable
      listed := lineage.table.mem_phases
      ordered := lineage.table.phases_ordered
      asked := step_phases htable
      shown := step_text htable
      set := fun phase hook => ⟨_, step_on htable phase hook, ?_, fun other hother => ?_⟩
      commute := fun phase other hook hook' hne => ?_
      stays := fun later helsewhere => ?_
      copied := ⟨step_copy htable, fun later helsewhere => ?_⟩ }
  · rw [HookTable.hook?_on, if_pos rfl]
  · rw [HookTable.hook?_on, if_neg hother.symm]
  · rw [after_append, after_append, after_on_comm htable hne]
  · rw [after_append, getElem?_after htable helsewhere]
  · rw [after_append, after_cons, step_copy htable]
    exact getElem?_after (List.getElem?_concat_length ..) helsewhere

/-! ### What comes of making a table for an observer -/

/-- What there is to know about making a table for an observer. -/
structure Observes (sink : ObserverSink) : Prop where
  /-- An observer with other labels is refused, all its labels are named, and no table is
  made. -/
  refused : sink.names ≠ ["event"] →
    HookTable.observeEvents sink = .error (.notEvent sink.names) ∧
    ∀ shelf : HookShelf,
      shelf.step (.observe sink) = ⟨.refused (.notEvent sink.names), shelf, []⟩
  /-- An observer with the event label only is accepted. -/
  accepted : sink.names = ["event"] → ∃ table : HookTable,
    HookTable.observeEvents sink = .ok table ∧
    (∀ shelf : HookShelf, shelf.step (.observe sink)
      = ⟨.index shelf.tables.length, ⟨shelf.tables ++ [table]⟩, []⟩) ∧
    -- Each phase has a hook, and it observes what it is given under the phase's name.
    ∀ phase, ∃ hook, table.hook? phase = some hook ∧
      ∀ reading, hook.call reading = .observe sink reading [phase.name]

theorem observes (sink : ObserverSink) : Observes sink := by
  refine ⟨fun hnames => ⟨?_, fun shelf => ?_⟩, fun hnames => ⟨.observing sink, ?_, fun shelf => ?_,
    fun phase => ⟨_, HookTable.hook?_observing sink phase, fun _ => rfl⟩⟩⟩
  · rw [HookTable.observeEvents_eq, if_neg hnames]
  · rw [step_observe, if_neg hnames]
  · rw [HookTable.observeEvents_eq, if_pos hnames]
  · rw [step_observe, if_pos hnames]
    rfl

/--
**A hook table is what its lineage leaves.**

Whatever is done on a shelf, each table on it has a lineage, and its hook for a phase is the
last one that was set for that phase on the way, or else the observer's.  Setting a hook
changes nothing else, not even a copy.  Which phases are listed, and shown, depends on what
phases were set, not on the order.  A table is made for an observer just if its only label
is the event, and then observes each phase under its name.
-/
theorem hooks_by_lineage :
    (∀ steps : List Step,
      (start.after steps).tables.length = (lineages steps).length ∧
      (∀ later, start.run (steps ++ later)
        = start.run steps ++ (start.after steps).run later) ∧
      ∀ (number : Nat) (table : HookTable),
        (start.after steps).tables[number]? = some table →
        ∃ lineage, (lineages steps)[number]? = some lineage ∧ Kept steps number table lineage) ∧
    (∀ (steps steps' : List Step) (number number' : Nat) (table table' : HookTable)
      (lineage lineage' : Lineage),
      (start.after steps).tables[number]? = some table →
      (lineages steps)[number]? = some lineage →
      (start.after steps').tables[number']? = some table' →
      (lineages steps')[number']? = some lineage' →
      lineage.observer.isSome = lineage'.observer.isSome →
      (∀ phase, phase ∈ lineage.hooks.map Prod.fst ↔ phase ∈ lineage'.hooks.map Prod.fst) →
      table.phases = table'.phases ∧ ∀ breadth, table.text breadth = table'.text breadth) ∧
    ∀ sink, Observes sink := by
  have hcarried : ∀ {steps : List Step} {number : Nat} {table : HookTable} {lineage : Lineage},
      (start.after steps).tables[number]? = some table →
      (lineages steps)[number]? = some lineage → table = lineage.table := by
    intro steps number table lineage htable hlineage
    rw [tables_after, List.getElem?_map, hlineage] at htable
    exact (Option.some.inj htable).symm
  refine ⟨fun steps => ⟨?_, run_append start steps, fun number table htable => ?_⟩, ?_, observes⟩
  · rw [tables_after, List.length_map]
  · have hfound := htable
    rw [tables_after, List.getElem?_map, Option.map_eq_some_iff] at hfound
    obtain ⟨lineage, hlineage, rfl⟩ := hfound
    exact ⟨lineage, hlineage, kept hlineage⟩
  · intro steps steps' number number' table table' lineage lineage' htable hlineage htable'
      hlineage' hobserver hset
    have hphases : table.phases = table'.phases := by
      rw [hcarried htable hlineage, hcarried htable' hlineage', Lineage.phases_table,
        Lineage.phases_table, Lineage.phases_congr hobserver hset]
    exact ⟨hphases, fun breadth => by rw [HookTable.text, HookTable.text, hphases]⟩

/-- A copy keeps the hook that its original is given another for, and both list the same. -/
theorem hooks_by_lineage_overridden :
    let steps : List Step := [.on 0 .dnsStart (.note "first" .dnsStart), .copy 0,
      .on 0 .dnsStart (.note "second" .dnsStart)]
    ∃ original copied : HookTable, (start.after steps).tables = [original, copied] ∧
      original.hook? .dnsStart = some (.note "second" .dnsStart) ∧
      copied.hook? .dnsStart = some (.note "first" .dnsStart) ∧
      original.phases = copied.phases := by
  intro steps
  obtain ⟨hruns, hphases, -⟩ := hooks_by_lineage
  obtain ⟨-, -, htables⟩ := hruns steps
  obtain ⟨lineage, hlineage, horiginal⟩ := htables 0 _ rfl
  obtain ⟨lineage', hlineage', hcopied⟩ := htables 1 _ rfl
  cases hlineage
  cases hlineage'
  have hlast : ∀ earlier hook, Lineage.Leaves
      ⟨none, earlier ++ [(Phase.dnsStart, hook)]⟩ .dnsStart (some hook) :=
    fun earlier hook => .last rfl fun _ h => absurd h List.not_mem_nil
  exact ⟨_, _, rfl, (horiginal.hooks _ _).mpr (hlast [_] _), (hcopied.hooks _ _).mpr (hlast [] _),
    (hphases steps steps 0 1 _ _ _ _ rfl rfl rfl rfl rfl (by simp)).1⟩

end HookShelf

end Telemetry
