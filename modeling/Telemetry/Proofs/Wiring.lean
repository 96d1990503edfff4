/-
A bundle is wired to its metrics.

A recording layer lays the values of a response out in the order it was given, and does
not look at the names of its sink again.  So everything rests on the order being that of
the names.  For a bundle it is, whichever way the bundle came about: `register` gives
names and orders that go together, and `ofFamilies` takes the orders from the checks.
The hooks of a bundle observe every phase under its name, in a family with the one event
label.
-/
import Telemetry.Assembly
import Telemetry.Proofs.Posting

namespace Telemetry

/-! ### What was accepted was accepted check by check -/

/-- If one check after another is passed, each of them is. -/
theorem except_bind_ok {α β : Type} {check : Except LabelError α}
    {next : α → Except LabelError β} {result : β} (accepted : (check >>= next) = .ok result) :
    ∃ value, check = .ok value ∧ next value = .ok result := by
  cases check with
  | error cause => cases accepted
  | ok value => exact ⟨value, rfl, accepted⟩

theorem HookTable.observeEvents_ok {sink : ObserverSink} {table : HookTable}
    (accepted : observeEvents sink = .ok table) :
    sink.names = [eventLabel] ∧ table = .observing sink := by
  unfold observeEvents checkEventLabel at accepted
  by_cases hnames : sink.names = [eventLabel]
  · rw [if_pos hnames] at accepted
    cases accepted
    exact ⟨hnames, rfl⟩
  · rw [if_neg hnames] at accepted
    cases accepted

theorem Part.recording_ok {recorder : Recorder} {assembled : Assembled}
    (accepted : recording recorder = .ok assembled) :
    ∃ order, LabelOrder.check recorder.names = .ok order ∧
      assembled = ⟨[.record recorder order], [some order], [.validated order]⟩ := by
  obtain ⟨order, hcheck, hrest⟩ := except_bind_ok accepted
  cases hrest
  exact ⟨order, hcheck, rfl⟩

theorem Part.events_ok {sink : ObserverSink} {assembled : Assembled}
    (accepted : (Part.events sink).assemble = .ok assembled) :
    sink.names = [eventLabel] ∧ assembled = tracing (.observing sink) := by
  obtain ⟨table, hevents, hrest⟩ := except_bind_ok accepted
  obtain ⟨hnames, rfl⟩ := HookTable.observeEvents_ok hevents
  cases hrest
  exact ⟨hnames, rfl⟩

theorem Bundle.ofFamilies_ok {bundle : Bundle} {inFlight : Gauge} {requests : CounterFamily}
    {duration events : HistogramFamily}
    (accepted : ofFamilies inFlight requests duration events = .ok bundle) :
    ∃ requestsOrder durationOrder hooks, LabelOrder.check requests.names = .ok requestsOrder ∧
      LabelOrder.check duration.names = .ok durationOrder ∧
      HookTable.observeEvents (.family events) = .ok hooks ∧
      bundle = ⟨inFlight, requests, requestsOrder, duration, durationOrder, hooks⟩ := by
  obtain ⟨requestsOrder, hrequests, hrest⟩ := except_bind_ok accepted
  obtain ⟨durationOrder, hduration, hrest⟩ := except_bind_ok hrest
  obtain ⟨hooks, hevents, hrest⟩ := except_bind_ok hrest
  cases hrest
  exact ⟨requestsOrder, durationOrder, hooks, hrequests, hduration, hevents, rfl⟩

/-! ### An order that was checked has the names that were checked -/

theorem Label.name_ofName {name : String} {label : Label} (h : Label.ofName name = .ok label) :
    label.name = name := by
  unfold Label.ofName at h
  by_cases hcode : name = code.name
  · rw [if_pos hcode] at h
    cases h
    exact hcode.symm
  · rw [if_neg hcode] at h
    by_cases hmethod : name = method.name
    · rw [if_pos hmethod] at h
      cases h
      exact hmethod.symm
    · rw [if_neg hmethod] at h
      cases h

namespace LabelOrder

theorem names_checkFrom {order checked : LabelOrder} {names : List String}
    (h : checkFrom order names = .ok checked) : checked.names = order.names ++ names := by
  induction names generalizing order with
  | nil =>
      cases h
      rw [List.append_nil]
  | cons name rest ih =>
      rw [checkFrom] at h
      cases hlabel : Label.ofName name with
      | error error =>
          rw [hlabel] at h
          cases h
      | ok label =>
          simp only [hlabel] at h
          by_cases hfresh : label ∈ order.labels
          · rw [dif_pos hfresh] at h
            cases h
          · rw [dif_neg hfresh] at h
            have hpush : (order.push label hfresh).names = order.names ++ [name] := by
              simp [names, push, Label.name_ofName hlabel]
            rw [ih h, hpush, List.append_assoc, List.singleton_append]

theorem names_check {names : List String} {order : LabelOrder} (h : check names = .ok order) :
    order.names = names := by
  rw [names_checkFrom h]
  exact List.nil_append names

/-- An order is known by its names. -/
theorem eq_of_names {order other : LabelOrder} (h : order.names = other.names) :
    order = other := by
  have hname : Function.Injective Label.name := by
    intro label label'
    cases label <;> cases label' <;> decide
  obtain ⟨labels, hnodup⟩ := order
  obtain ⟨labels', hnodup'⟩ := other
  have hlabels : labels = labels' := List.map_injective_iff.mpr hname h
  subst hlabels
  rfl

/-- An order has as many values as names. -/
theorem length_values (order : LabelOrder) (code method : String) :
    (order.values code method).length = order.names.length := by
  rw [values, names, List.length_map, List.length_map]

/-- No name in an order is the event label's. -/
theorem event_notMem_names (order : LabelOrder) : eventLabel ∉ order.names := by
  intro h
  obtain ⟨label, -, hlabel⟩ := List.mem_map.mp h
  cases label <;> exact absurd hlabel (by decide)

end LabelOrder

/-! ### Hooks that observe every phase -/

theorem HookTable.hook?_observing (sink : ObserverSink) (phase : Phase) :
    (HookTable.observing sink).hook? phase = some (.observe sink [phase.name]) := by
  cases phase <;> simp [HookTable.observing, Phase.all, HookTable.hook?_on]

/-! ### Different values lead to different series -/

theorem zip_injective {names values others : List String}
    (hvalues : names.length = values.length) (hothers : names.length = others.length)
    (h : names.zip values = names.zip others) : values = others := by
  have hmap := congrArg (List.map Prod.snd) h
  rwa [List.map_snd_zip (Nat.le_of_eq hvalues.symm), List.map_snd_zip (Nat.le_of_eq hothers.symm)]
    at hmap

theorem CounterFamily.key_inj {family : CounterFamily} {values others : List String}
    (hvalues : family.names.length = values.length)
    (hothers : family.names.length = others.length) :
    family.key values = family.key others ↔ values = others := by
  refine ⟨fun h => zip_injective hvalues hothers (congrArg SeriesKey.labels h), ?_⟩
  intro h
  rw [h]

theorem HistogramFamily.key_inj {family : HistogramFamily} {values others : List String}
    (hvalues : family.names.length = values.length)
    (hothers : family.names.length = others.length) :
    family.key values = family.key others ↔ values = others := by
  refine ⟨fun h => zip_injective hvalues hothers (congrArg SeriesKey.labels h), ?_⟩
  intro h
  rw [h]

/-! ### A bundle that was made is wired -/

namespace Bundle

/-- The bundles there are. -/
inductive Built : Bundle → Prop
  | registered (config : BundleConfig) (inventory : Inventory) :
    Built ((register config).run inventory).1
  | ofFamilies {bundle : Bundle} {inFlight : Gauge} {requests : CounterFamily}
    {duration events : HistogramFamily}
    (accepted : Bundle.ofFamilies inFlight requests duration events = .ok bundle) : Built bundle

/-- The bundle's layers go with its metrics. -/
structure Wired (bundle : Bundle) : Prop where
  requests : bundle.requestsOrder.names = bundle.requests.names
  duration : bundle.durationOrder.names = bundle.duration.names
  hooks : ∃ events : HistogramFamily, events.names = [eventLabel] ∧
    bundle.hooks = .observing (.family events)

theorem Built.wired {bundle : Bundle} (hbuilt : bundle.Built) : bundle.Wired := by
  cases hbuilt with
  | registered config inventory => exact ⟨rfl, rfl, _, rfl, rfl⟩
  | @ofFamilies _ inFlight requests duration events accepted =>
      obtain ⟨requestsOrder, durationOrder, hooks, hrequests, hduration, hevents, rfl⟩ :=
        ofFamilies_ok accepted
      obtain ⟨hnames, rfl⟩ := HookTable.observeEvents_ok hevents
      exact ⟨LabelOrder.names_check hrequests, LabelOrder.names_check hduration, events, hnames,
        rfl⟩

end Bundle

/-! ### The label value of a method is the method in lower case -/

theorem Http.Method.label_eq (method : Http.Method) : method.label = method.lowered := by
  have hcommon : ∀ entry ∈ common, String.ofList (entry.1.toList.map Char.toLower) = entry.2 := by
    decide
  unfold label
  cases hfound : method.commonLabel? with
  | none => rfl
  | some text =>
      obtain ⟨front, back, hsplit, -⟩ := List.lookup_eq_some_iff.mp hfound
      have hmem : (method.text, text) ∈ common := by
        rw [hsplit]
        simp
      exact (hcommon _ hmem).symm

end Telemetry
