/-
However a client's metrics are put together, the client behaves the same.

A bundle that is registered takes its label orders and its hooks as they are written down
for it, and a bundle of existing families takes them from the checks.  The two agree: the
orders that are written down are those that the checks would give.  What is left to tell a
registered bundle from one of fresh families is the numbers of the metrics, and these do
not matter.  `between` is the renaming that takes the one to the other and moves nothing
else, and the lemmas about renaming say that runs, and the stores that they leave, differ
by it only.

A bundle can also be taken apart.  Its four decorators, put around an inner stack by hand
and each by the route that one likes, come to the layers of the bundle.
-/
import Mathlib.Logic.Equiv.Basic
import Telemetry.Proofs.Posting
import Telemetry.Proofs.Renaming
import Telemetry.Proofs.Routes

namespace Telemetry

/-! ### The store keeps its values under other numbers -/

namespace Store

/-- The other store holds the same values, each under the metric's other number. -/
structure Renamed (ρ : Renaming) (store other : Store) : Prop where
  gauge : ∀ gauge : Gauge, other.gauge (gauge.rename ρ) = store.gauge gauge
  counter : ∀ (family : CounterFamily) (labels : Labels),
    other.counter? (family.rename ρ) labels = store.counter? family labels
  histogram : ∀ (family : HistogramFamily) (labels : Labels),
    other.histogram? (family.rename ρ) labels = store.histogram? family labels

/-- Both stores refuse, for the same cause, or both accept and hold the same values. -/
inductive Alike (ρ : Renaming) : Except LabelMismatch Store → Except LabelMismatch Store → Prop
  | refused (mismatch : LabelMismatch) : Alike ρ (.error mismatch) (.error mismatch)
  | accepted {after other : Store} (same : after.Renamed ρ other) : Alike ρ (.ok after) (.ok other)

namespace Renamed

variable {ρ : Renaming} {store other : Store}

theorem shift (h : store.Renamed ρ other) (gauge : Gauge) (amount : Int64) :
    (store.shift gauge amount).Renamed ρ (other.shift (gauge.rename ρ) amount) := by
  refine ⟨fun one => ?_, h.counter, h.histogram⟩
  have hid : gauge.rename ρ = one.rename ρ ↔ gauge = one := by
    cases gauge
    cases one
    simp [Gauge.rename]
  rw [gauge_shift, gauge_shift, h.gauge]
  by_cases hsame : gauge = one
  · rw [if_pos hsame, if_pos (hid.mpr hsame)]
  · rw [if_neg hsame, if_neg (fun e => hsame (hid.mp e))]

theorem count (h : store.Renamed ρ other) (family : CounterFamily) (values : List String)
    (amount : UInt64) :
    Alike ρ (store.count family values amount) (other.count (family.rename ρ) values amount) := by
  have hlabels : Labels.of (family.rename ρ).names values = Labels.of family.names values := rfl
  rw [Store.count, Store.count, hlabels]
  cases Labels.of family.names values with
  | error mismatch => exact .refused mismatch
  | ok labels =>
      refine .accepted ⟨h.gauge, fun one series => ?_, h.histogram⟩
      have hold := h.counter family labels
      have hone := h.counter one series
      simp only [counter?, CounterFamily.rename] at hold hone ⊢
      rw [Table.get?_alter, Table.get?_alter, hold, hone]
      simp [SeriesKey.mk.injEq]

theorem observe (h : store.Renamed ρ other) (family : HistogramFamily) (value : Float)
    (values : List String) :
    Alike ρ (store.observe family value values)
      (other.observe (family.rename ρ) value values) := by
  have hlabels : Labels.of (family.rename ρ).names values = Labels.of family.names values := rfl
  rw [Store.observe, Store.observe, hlabels]
  cases Labels.of family.names values with
  | error mismatch => exact .refused mismatch
  | ok labels =>
      refine .accepted ⟨h.gauge, h.counter, fun one series => ?_⟩
      have hold := h.histogram family labels
      have hone := h.histogram one series
      simp only [histogram?, HistogramFamily.rename] at hold hone ⊢
      rw [Table.get?_alter, Table.get?_alter, hold, hone]
      simp [SeriesKey.mk.injEq]

theorem apply (h : store.Renamed ρ other) (effect : Effect) :
    Alike ρ (store.apply effect) (other.apply (effect.rename ρ)) := by
  cases effect with
  | raise sink =>
      cases sink with
      | gauge gauge => exact .accepted (h.shift gauge 1)
      | probe name => exact .accepted h
  | lower sink =>
      cases sink with
      | gauge gauge => exact .accepted (h.shift gauge (-1))
      | probe name => exact .accepted h
  | count sink values =>
      cases sink with
      | family family => exact h.count family values 1
      | probe name labels => exact .accepted h
  | observe sink reading values =>
      cases sink with
      | family family => exact h.observe family reading.seconds values
      | probe name labels => exact .accepted h
  | note | hear | log => exact .accepted h

/-- **The store makes good on renamed effects under the other numbers.** -/
theorem applyAll (h : store.Renamed ρ other) (effects : List Effect) :
    Alike ρ (store.applyAll effects) (other.applyAll (effects.map (Effect.rename ρ))) := by
  induction effects generalizing store other with
  | nil => exact .accepted h
  | cons effect rest ih =>
      rw [List.map_cons]
      show Alike ρ (store.apply effect >>= fun next => next.applyAll rest)
        (other.apply (effect.rename ρ) >>= fun next => next.applyAll (rest.map (Effect.rename ρ)))
      have hone := h.apply effect
      cases hfirst : store.apply effect <;> cases hsecond : other.apply (effect.rename ρ) <;>
        rw [hfirst, hsecond] at hone
      · cases hone
        exact .refused _
      · cases hone
      · cases hone
      · cases hone with
        | accepted same => exact ih same

end Renamed

end Store

/-! ### From one set of metrics to another -/

attribute [ext] Gauge CounterFamily HistogramFamily

/-- The metrics of a bundle, among them the family that its hooks observe in. -/
@[ext] structure Metrics where
  inFlight : Gauge
  requests : CounterFamily
  duration : HistogramFamily
  events : HistogramFamily

namespace Metrics

/-- The bundle of these metrics, if their labels are accepted. -/
def bundle (metrics : Metrics) : Except LabelError Bundle :=
  Bundle.ofFamilies metrics.inFlight metrics.requests metrics.duration metrics.events

/-- The metrics that are made when a bundle is registered. -/
def registered (config : BundleConfig) (inventory : Inventory) : Metrics where
  inFlight := ⟨inventory.next⟩
  requests := ⟨inventory.next + 1, [Label.code.name, Label.method.name]⟩
  duration := ⟨inventory.next + 2, [Label.method.name], config.durationBuckets⟩
  events := ⟨inventory.next + 3, [eventLabel], config.traceBuckets⟩

/-- The checks accept the metrics of a registered bundle, and find the orders and the hooks
that it was given without a check. -/
theorem bundle_registered (config : BundleConfig) (inventory : Inventory) :
    (registered config inventory).bundle = .ok ((Bundle.register config).run inventory).1 := rfl

/-- The same metrics under other numbers. -/
def rename (ρ : Renaming) (metrics : Metrics) : Metrics where
  inFlight := metrics.inFlight.rename ρ
  requests := metrics.requests.rename ρ
  duration := metrics.duration.rename ρ
  events := metrics.events.rename ρ

/-- Exchanges the numbers of some metrics for those of others. -/
def between (metrics others : Metrics) : Renaming where
  gauges := Equiv.swap metrics.inFlight.id others.inFlight.id
  counters := Equiv.swap metrics.requests.id others.requests.id
  histograms := (Equiv.swap metrics.duration.id others.duration.id).trans
    (Equiv.swap (Equiv.swap metrics.duration.id others.duration.id metrics.events.id)
      others.events.id)

/-- Both sets of metrics declare the same label names and the same bounds, and have a
family of its own for each purpose. -/
structure Like (metrics others : Metrics) : Prop where
  requests : others.requests.names = metrics.requests.names
  duration : others.duration.names = metrics.duration.names
  durationBounds : others.duration.bounds = metrics.duration.bounds
  events : others.events.names = metrics.events.names
  eventsBounds : others.events.bounds = metrics.events.bounds
  apart : metrics.duration.id ≠ metrics.events.id
  othersApart : others.duration.id ≠ others.events.id

variable {metrics others : Metrics}

theorem Like.rename (hlike : metrics.Like others) :
    metrics.rename (metrics.between others) = others := by
  have hduration :
      (metrics.between others).histograms metrics.duration.id = others.duration.id := by
    have happart : others.duration.id
        ≠ Equiv.swap metrics.duration.id others.duration.id metrics.events.id := by
      intro h
      have hback := congrArg (Equiv.swap metrics.duration.id others.duration.id) h
      rw [Equiv.swap_apply_right, Equiv.swap_apply_self] at hback
      exact hlike.apart hback
    rw [between, Equiv.trans_apply, Equiv.swap_apply_left,
      Equiv.swap_apply_of_ne_of_ne happart hlike.othersApart]
  have hevents : (metrics.between others).histograms metrics.events.id = others.events.id := by
    rw [between, Equiv.trans_apply, Equiv.swap_apply_left]
  refine Metrics.ext ?_ ?_ ?_ ?_
  · exact congrArg Gauge.mk (Equiv.swap_apply_left _ _)
  · exact CounterFamily.ext (Equiv.swap_apply_left _ _) hlike.requests.symm
  · exact HistogramFamily.ext hduration hlike.duration.symm hlike.durationBounds.symm
  · exact HistogramFamily.ext hevents hlike.events.symm hlike.eventsBounds.symm

/-- A histogram family that is moved is one of these, and so is the one it is moved to. -/
theorem between_histograms (metrics others : Metrics) (id : MetricId) :
    (metrics.between others).histograms id = id ∨
      id ∈ [metrics.duration.id, metrics.events.id, others.duration.id, others.events.id] ∧
      (metrics.between others).histograms id
        ∈ [metrics.duration.id, metrics.events.id, others.duration.id, others.events.id] := by
  simp only [between, Equiv.trans_apply, Equiv.swap_apply_def, List.mem_cons, List.not_mem_nil,
    or_false]
  grind

end Metrics

theorem swap_cases (a b id : MetricId) :
    Equiv.swap a b id = id ∨ id ∈ [a, b] ∧ Equiv.swap a b id ∈ [a, b] := by
  rw [Equiv.swap_apply_def]
  split_ifs with ha hb
  · exact .inr (by simp [ha])
  · exact .inr (by simp [hb])
  · exact .inl rfl

/-- Whether an effect is on none of the metrics. -/
def Effect.Outside (metrics : Metrics) : Effect → Prop
  | raise (.gauge gauge) | lower (.gauge gauge) => gauge ≠ metrics.inFlight
  | count (.family family) _ => family.id ≠ metrics.requests.id
  | observe (.family family) _ _ =>
    family.id ≠ metrics.duration.id ∧ family.id ≠ metrics.events.id
  | _ => True

/-- An effect on none of the metrics that are exchanged stays as it is. -/
theorem Effect.rename_outside {metrics others : Metrics} {effect : Effect}
    (hmetrics : effect.Outside metrics) (hothers : effect.Outside others) :
    effect.rename (metrics.between others) = effect := by
  have hgauge : ∀ gauge : Gauge, gauge ≠ metrics.inFlight → gauge ≠ others.inFlight →
      gauge.rename (metrics.between others) = gauge := by
    intro gauge hne hne'
    exact Gauge.ext (Equiv.swap_apply_of_ne_of_ne (fun h => hne (Gauge.ext h))
      fun h => hne' (Gauge.ext h))
  cases effect with
  | raise sink =>
      cases sink with
      | gauge gauge => simp only [rename, GaugeSink.rename, hgauge gauge hmetrics hothers]
      | probe name => rfl
  | lower sink =>
      cases sink with
      | gauge gauge => simp only [rename, GaugeSink.rename, hgauge gauge hmetrics hothers]
      | probe name => rfl
  | count sink values =>
      cases sink with
      | family family =>
          have hfamily : family.rename (metrics.between others) = family :=
            CounterFamily.ext (Equiv.swap_apply_of_ne_of_ne hmetrics hothers) rfl
          simp only [rename, CounterSink.rename, hfamily]
      | probe name labels => rfl
  | observe sink reading values =>
      cases sink with
      | family family =>
          have hid : (metrics.between others).histograms family.id = family.id := by
            rcases metrics.between_histograms others family.id with hstays | ⟨hmem, -⟩
            · exact hstays
            · simp only [List.mem_cons, List.not_mem_nil, or_false] at hmem
              rcases hmem with h | h | h | h
              · exact absurd h hmetrics.1
              · exact absurd h hmetrics.2
              · exact absurd h hothers.1
              · exact absurd h hothers.2
          have hfamily : family.rename (metrics.between others) = family :=
            HistogramFamily.ext hid rfl rfl
          simp only [rename, ObserverSink.rename, hfamily]
      | probe name labels => rfl
  | note | hear | log => rfl

namespace Metrics

variable {metrics others : Metrics}

/-- A store in which none of the metrics was touched yet. -/
structure Untouched (metrics : Metrics) (store : Store) : Prop where
  inFlight : store.gauge metrics.inFlight = 0
  requests : ∀ labels, store.counter? metrics.requests labels = none
  duration : ∀ labels, store.histogram? metrics.duration labels = none
  events : ∀ labels, store.histogram? metrics.events labels = none

/-- A store that was not touched yet does not tell metrics from others. -/
theorem Untouched.renamed {store : Store} (hmetrics : metrics.Untouched store)
    (hothers : others.Untouched store) : store.Renamed (metrics.between others) store := by
  refine ⟨fun gauge => ?_, fun family labels => ?_, fun family labels => ?_⟩
  · have hzero : ∀ id ∈ [metrics.inFlight.id, others.inFlight.id], store.gauge ⟨id⟩ = 0 := by
      simpa using ⟨hmetrics.inFlight, hothers.inFlight⟩
    show store.gauge ⟨Equiv.swap _ _ gauge.id⟩ = store.gauge ⟨gauge.id⟩
    rcases swap_cases metrics.inFlight.id others.inFlight.id gauge.id with hstays | ⟨hmem, hmoved⟩
    · rw [hstays]
    · rw [hzero _ hmem, hzero _ hmoved]
  · have hnone : ∀ id ∈ [metrics.requests.id, others.requests.id],
        store.counters.get? ⟨id, labels⟩ = none := by
      simpa using ⟨hmetrics.requests labels, hothers.requests labels⟩
    show store.counters.get? ⟨Equiv.swap _ _ family.id, labels⟩
      = store.counters.get? ⟨family.id, labels⟩
    rcases swap_cases metrics.requests.id others.requests.id family.id with hstays | ⟨hmem, hmoved⟩
    · rw [hstays]
    · rw [hnone _ hmem, hnone _ hmoved]
  · have hnone : ∀ id ∈ [metrics.duration.id, metrics.events.id, others.duration.id,
        others.events.id], store.histograms.get? ⟨id, labels⟩ = none := by
      simpa using ⟨hmetrics.duration labels, hmetrics.events labels, hothers.duration labels,
        hothers.events labels⟩
    show store.histograms.get? ⟨(metrics.between others).histograms family.id, labels⟩
      = store.histograms.get? ⟨family.id, labels⟩
    rcases metrics.between_histograms others family.id with hstays | ⟨hmem, hmoved⟩
    · rw [hstays]
    · rw [hnone _ hmem, hnone _ hmoved]

end Metrics

/-! ### Bundles of metrics that are declared alike -/

namespace Bundle

/-- The bundle of the same metrics under other numbers. -/
def rename (ρ : Renaming) (bundle : Bundle) : Bundle :=
  { bundle with
    inFlight := bundle.inFlight.rename ρ
    requests := bundle.requests.rename ρ
    duration := bundle.duration.rename ρ
    hooks := bundle.hooks.rename ρ }

theorem instrument_rename (ρ : Renaming) (bundle : Bundle) (inner : Stack) :
    (bundle.rename ρ).instrument (inner.rename ρ) = (bundle.instrument inner).rename ρ := rfl

end Bundle

namespace Metrics

/-- Whether renamed metrics are accepted has nothing to do with their numbers. -/
theorem bundle_rename (ρ : Renaming) (metrics : Metrics) :
    (metrics.rename ρ).bundle = metrics.bundle.map (Bundle.rename ρ) := by
  have hrequests : (metrics.rename ρ).requests.names = metrics.requests.names := rfl
  have hduration : (metrics.rename ρ).duration.names = metrics.duration.names := rfl
  have hevents : HookTable.observeEvents (.family (metrics.rename ρ).events)
      = (HookTable.observeEvents (.family metrics.events)).map (HookTable.rename ρ) := by
    have hnames : ObserverSink.names (.family (metrics.rename ρ).events)
        = ObserverSink.names (.family metrics.events) := rfl
    rw [HookTable.observeEvents, HookTable.observeEvents, hnames]
    cases checkEventLabel (ObserverSink.names (.family metrics.events)) with
    | error cause => rfl
    | ok _ => exact congrArg Except.ok (HookTable.rename_observing ρ (.family metrics.events)).symm
  rw [bundle, bundle, Bundle.ofFamilies, Bundle.ofFamilies, hrequests, hduration, hevents]
  cases LabelOrder.check metrics.requests.names with
  | error cause => rfl
  | ok requestsOrder =>
      cases LabelOrder.check metrics.duration.names with
      | error cause => rfl
      | ok durationOrder => cases HookTable.observeEvents (.family metrics.events) <;> rfl

/-- Whether inner services, the services beside them and the steps of a run have no part in
either set of metrics. -/
structure Foreign (metrics others : Metrics) (inners beside : List Service)
    (steps : List Traffic.Step) : Prop where
  inners : ∀ service ∈ inners, ∀ layer ∈ service.stack,
    layer.Only fun effect => effect.Outside metrics ∧ effect.Outside others
  beside : ∀ service ∈ beside, ∀ layer ∈ service.stack,
    layer.Only fun effect => effect.Outside metrics ∧ effect.Outside others
  steps : ∀ step ∈ steps, ∀ request ∈ step.request?, ∀ leaf ∈ request.leaves,
    leaf.Only fun effect => effect.Outside metrics ∧ effect.Outside others

/-- Idle traffic with inner services that a bundle instruments and services beside them. -/
def serving (bundle : Bundle) (inners beside : List Service) (now : Instant)
    (readiness : Http.Readiness) : Traffic where
  now
  readiness
  services := inners.map (fun inner => { inner with stack := bundle.instrument inner.stack })
    ++ beside
  exchanges := .empty

/-- Whatever is seen of a run, and whatever the store holds after it, differs between the two
kinds of traffic in the numbers of the metrics and in nothing else. -/
structure SameRuns (metrics others : Metrics) (traffic other : Traffic)
    (steps : List Traffic.Step) : Prop where
  trail : other.trail steps
    = (traffic.trail steps).map (Traffic.Shown.rename (metrics.between others))
  store : ∀ store : Store, metrics.Untouched store → others.Untouched store →
    Store.Alike (metrics.between others)
      (store.applyAll ((traffic.trail steps).flatMap Traffic.Shown.effects))
      (store.applyAll ((other.trail steps).flatMap Traffic.Shown.effects))

/-- Metrics that are declared alike are accepted alike, and their bundles run alike. -/
theorem Like.sameRuns {metrics others : Metrics} (hlike : metrics.Like others) {bundle : Bundle}
    (haccepted : metrics.bundle = .ok bundle) :
    ∃ other, others.bundle = .ok other ∧
      ∀ inners beside now readiness steps, metrics.Foreign others inners beside steps →
        metrics.SameRuns others (serving bundle inners beside now readiness)
          (serving other inners beside now readiness) steps := by
  have hother : others.bundle = .ok (bundle.rename (metrics.between others)) := by
    rw [← hlike.rename, bundle_rename, haccepted, hlike.rename]
    rfl
  refine ⟨_, hother, fun inners beside now readiness steps hforeign => ?_⟩
  have hstays : ∀ effect : Effect, effect.Outside metrics ∧ effect.Outside others →
      effect.rename (metrics.between others) = effect :=
    fun effect h => Effect.rename_outside h.1 h.2
  have hstack : ∀ stack : Stack, (∀ layer ∈ stack,
      layer.Only fun effect => effect.Outside metrics ∧ effect.Outside others) →
      stack.rename (metrics.between others) = stack :=
    fun stack h => Stack.rename_eq fun layer hlayer => (h layer hlayer).mono hstays
  have hinners : inners.map (fun inner => Service.rename (metrics.between others)
        { inner with stack := bundle.instrument inner.stack })
      = inners.map fun inner => { inner with
          stack := (bundle.rename (metrics.between others)).instrument inner.stack } := by
    refine List.map_congr_left fun inner hinner => ?_
    have hrename := Bundle.instrument_rename (metrics.between others) bundle inner.stack
    rw [hstack inner.stack (hforeign.inners inner hinner)] at hrename
    simp only [Service.rename, hrename]
  have hbeside : beside.map (Service.rename (metrics.between others)) = beside := by
    refine (List.map_congr_left fun service hservice => ?_).trans (List.map_id beside)
    rw [Service.rename, hstack service.stack (hforeign.beside service hservice)]
    rfl
  have hsteps : steps.map (Traffic.Step.rename (metrics.between others)) = steps :=
    Traffic.rename_steps_eq fun step hstep request hrequest leaf hleaf =>
      (hforeign.steps step hstep request hrequest leaf hleaf).mono hstays
  have hrenamed : Traffic.Renamed (metrics.between others)
      (serving bundle inners beside now readiness)
      (serving (bundle.rename (metrics.between others)) inners beside now readiness) := by
    refine ⟨rfl, rfl, ?_, fun id => rfl⟩
    rw [serving, serving, List.map_append, List.map_map, hbeside, ← hinners]
    rfl
  have htrail := hrenamed.trail steps
  rw [hsteps] at htrail
  refine ⟨htrail, fun store hmetrics hothers => ?_⟩
  have heffects : ∀ trail : List Traffic.Shown,
      (trail.map (Traffic.Shown.rename (metrics.between others))).flatMap Traffic.Shown.effects
        = (trail.flatMap Traffic.Shown.effects).map (Effect.rename (metrics.between others)) := by
    intro trail
    rw [List.flatMap_map, List.map_flatMap]
    rfl
  rw [htrail, heffects]
  exact (hmetrics.renamed hothers).applyAll _

/-- **All ways to put a client's metrics together lead to the same client.**  What a
registered bundle is given without a check is what the checks give, and the bundle of fresh
families that are declared as its own are runs just as it does, under the numbers of the
fresh families; and the four decorators of a bundle that is accepted, each put in place by
its own route, come around every inner stack to what the bundle puts there. -/
theorem constructions_agree :
    (∀ (config : BundleConfig) (inventory : Inventory) (fresh : Metrics),
      (registered config inventory).Like fresh →
      let metrics := registered config inventory
      let bundle := ((Bundle.register config).run inventory).1
      (LabelOrder.check bundle.requests.names = .ok bundle.requestsOrder ∧
        LabelOrder.check bundle.duration.names = .ok bundle.durationOrder ∧
        HookTable.observeEvents (.family metrics.events) = .ok bundle.hooks) ∧
      (metrics.rename (metrics.between fresh) = fresh ∧
        ∀ effect : Effect, effect.Outside metrics → effect.Outside fresh →
          effect.rename (metrics.between fresh) = effect) ∧
      ∃ other, fresh.bundle = .ok other ∧
        ∀ inners beside now readiness steps, metrics.Foreign fresh inners beside steps →
          metrics.SameRuns fresh (serving bundle inners beside now readiness)
            (serving other inners beside now readiness) steps) ∧
    (∀ (metrics : Metrics) (bundle : Bundle), metrics.bundle = .ok bundle →
      ∀ first second third fourth : Route,
        ∃ build, Part.byHand
            [(.inFlight (.gauge metrics.inFlight), first),
             (.count (.family metrics.requests), second),
             (.events (.family metrics.events), third),
             (.duration (.family metrics.duration), fourth)] = .ok build ∧
          ∀ inner, build inner = .ok (bundle.instrument inner) ∧
            bundle.layer inner = bundle.instrument inner) := by
  refine ⟨fun config inventory fresh hlike => ⟨⟨rfl, rfl, rfl⟩, ⟨hlike.rename, ?_⟩, ?_⟩, ?_⟩
  · exact fun effect hmetrics hfresh => Effect.rename_outside hmetrics hfresh
  · exact hlike.sameRuns (bundle_registered config inventory)
  · intro metrics bundle haccepted first second third fourth
    obtain ⟨assembled, hparts, hstack⟩ := Bundle.ofParts_parts haccepted
    have hrouted : Assembled.ofParts (List.map Prod.fst
        [(.inFlight (.gauge metrics.inFlight), first), (.count (.family metrics.requests), second),
         (.events (.family metrics.events), third),
         (.duration (.family metrics.duration), fourth)]) = .ok assembled := hparts
    obtain ⟨build, hbuild, hinner⟩ := Part.byHand_ok hrouted
    refine ⟨build, hbuild, fun inner => ⟨?_, rfl⟩⟩
    rw [hinner, hstack, Bundle.instrument_eq]

/-- A request that is answered, through a registered bundle and through one of families that
were made elsewhere. -/
theorem constructions_agree_elsewhere :
    let metrics := registered ⟨[], []⟩ .empty
    let bundle := ((Bundle.register ⟨[], []⟩).run .empty).1
    let elsewhere : Metrics :=
      ⟨⟨7⟩, ⟨7, ["code", "method"]⟩, ⟨3, ["method"], []⟩, ⟨2, ["event"], []⟩⟩
    let request : Request := ⟨⟨"GET", by decide⟩, .ofString "/", .none, "", none⟩
    let response : Http.Response := ⟨⟨200, by decide, by decide⟩, .none, ""⟩
    let steps : List Traffic.Step :=
      [.call "a" 0 request [.wait ⟨5⟩, .report .wroteHeaders], .settle "a" (.answered response),
       .look "a"]
    let inners : List Service := [⟨[], .scripted, 0⟩, ⟨[], .function, 0⟩]
    metrics.Like elsewhere ∧ metrics.Foreign elsewhere inners [] steps ∧
      metrics.Untouched .empty ∧ elsewhere.Untouched .empty ∧
      (∃ other, elsewhere.bundle = .ok other ∧
        metrics.SameRuns elsewhere (serving bundle inners [] .start .ready)
          (serving other inners [] .start .ready) steps) ∧
      ∃ build, Part.byHand
          [(.inFlight (.gauge metrics.inFlight), .layer),
           (.count (.family metrics.requests), .new),
           (.events (.family metrics.events), .layer),
           (.duration (.family metrics.duration), .new)] = .ok build ∧
        build [] = .ok (bundle.instrument []) := by
  intro metrics bundle elsewhere request response steps inners
  have hlike : metrics.Like elsewhere := ⟨rfl, rfl, rfl, rfl, rfl, by decide, by decide⟩
  have hforeign : metrics.Foreign elsewhere inners [] steps := by
    refine ⟨?_, fun _ h => absurd h (List.not_mem_nil), ?_⟩
    · intro service hservice layer hlayer
      simp only [inners, List.mem_cons, List.not_mem_nil, or_false] at hservice
      rcases hservice with rfl | rfl <;> exact absurd hlayer (List.not_mem_nil)
    intro step hstep handed hhanded leaf hleaf
    simp only [steps, List.mem_cons, List.not_mem_nil, or_false] at hstep
    rcases hstep with rfl | rfl | rfl <;> cases hhanded
    exact absurd hleaf (List.not_mem_nil)
  obtain ⟨hroutes, hhand⟩ := constructions_agree
  obtain ⟨-, -, other, hother, hruns⟩ := hroutes ⟨[], []⟩ .empty elsewhere hlike
  obtain ⟨build, hbuild, hinner⟩ := hhand metrics bundle rfl .layer .new .layer .new
  exact ⟨hlike, hforeign, ⟨rfl, fun _ => rfl, fun _ => rfl, fun _ => rfl⟩,
    ⟨rfl, fun _ => rfl, fun _ => rfl, fun _ => rfl⟩,
    ⟨other, hother, hruns inners [] .start .ready steps hforeign⟩,
    build, hbuild, (hinner []).1⟩

end Metrics

end Telemetry
