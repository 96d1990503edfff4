/-
What effects come to in the store.

The store makes good on effects one after the other, but what they come to depends
neither on their order nor on what the store held before: a gauge is moved by the number
of raises less the number of lowers, a counter grows by the number of times that it was
counted in, and a histogram by the number of observations made in it.  `Posted` says so.
Gauges and counters are words and wrap around, hence the casts: the sums themselves are
taken among the integers.

The store refuses effects only if one of them gives a family the wrong number of label
values; effects that all `Fits` are never refused.
-/
import Mathlib.Algebra.BigOperators.Group.List.Basic
import Mathlib.Algebra.Ring.Int.Defs
import Mathlib.Data.UInt
import Telemetry.Metric.Store

namespace Telemetry

/-! ### Where an effect goes, and what it adds there -/

/-- What the counter under some label values is found under. -/
def CounterFamily.key (family : CounterFamily) (values : List String) : SeriesKey :=
  ⟨family.id, family.names.zip values⟩

/-- What the histogram under some label values is found under. -/
def HistogramFamily.key (family : HistogramFamily) (values : List String) : SeriesKey :=
  ⟨family.id, family.names.zip values⟩

namespace Effect

/-- Whether an effect gives a family as many label values as the family has names. -/
def Fits : Effect → Prop
  | count (.family family) values => family.names.length = values.length
  | observe (.family family) _ values => family.names.length = values.length
  | _ => True

/-- What an effect adds to a gauge. -/
def shift (gauge : Gauge) : Effect → Int
  | raise (.gauge other) => if other = gauge then 1 else 0
  | lower (.gauge other) => if other = gauge then -1 else 0
  | _ => 0

/-- How often an effect counts in a counter. -/
def counts (key : SeriesKey) : Effect → Nat
  | count (.family family) values => if family.key values = key then 1 else 0
  | _ => 0

/-- How many observations an effect makes in a histogram. -/
def observes (key : SeriesKey) : Effect → Nat
  | observe (.family family) _ values => if family.key values = key then 1 else 0
  | _ => 0

end Effect

namespace Store

/-- The value of a counter, zero if it was never touched. -/
def counted (store : Store) (key : SeriesKey) : UInt64 := (store.counters.get? key).getD 0

/-- The number of observations made in a histogram, zero if it was never touched. -/
def observed (store : Store) (key : SeriesKey) : Nat :=
  match store.histograms.get? key with
  | none => 0
  | some histogram => histogram.count

/-- How a store has changed when it has made good on some effects. -/
structure Posted (store : Store) (effects : List Effect) (after : Store) : Prop where
  gauge : ∀ gauge : Gauge, after.gauge gauge
    = store.gauge gauge + Int64.ofInt (effects.map (Effect.shift gauge)).sum
  counted : ∀ key, after.counted key
    = store.counted key + UInt64.ofNat (effects.map (Effect.counts key)).sum
  observed : ∀ key, after.observed key
    = store.observed key + (effects.map (Effect.observes key)).sum

/-! ### One effect -/

theorem gauge_shift (store : Store) (gauge other : Gauge) (amount : Int64) :
    (store.shift gauge amount).gauge other
      = store.gauge other + if gauge = other then amount else 0 := by
  have hid : gauge.id = other.id ↔ gauge = other := by
    cases gauge
    cases other
    simp
  simp only [Store.gauge, shift, Table.get?_alter, hid]
  by_cases h : gauge = other
  · subst h
    simp
  · simp [h]

theorem count_ok (store : Store) {family : CounterFamily} {values : List String}
    (hfits : family.names.length = values.length) (amount : UInt64) :
    ∃ after, store.count family values amount = .ok after ∧
      after.gauges = store.gauges ∧ after.histograms = store.histograms ∧
      ∀ key, after.counted key
        = store.counted key + if family.key values = key then amount else 0 := by
  refine ⟨{ store with
      counters := store.counters.alter (family.key values) fun value => value.getD 0 + amount },
    ?_, rfl, rfl, ?_⟩
  · simp only [count, Labels.of, hfits, if_true]
    rfl
  intro key
  simp only [counted, Table.get?_alter]
  by_cases h : family.key values = key
  · subst h
    rw [if_pos rfl, if_pos rfl]
    rfl
  · rw [if_neg h, if_neg h, UInt64.add_zero]

theorem observe_ok (store : Store) {family : HistogramFamily} {values : List String}
    (hfits : family.names.length = values.length) (value : Float) :
    ∃ after, store.observe family value values = .ok after ∧
      after.gauges = store.gauges ∧ after.counters = store.counters ∧
      ∀ key, after.observed key
        = store.observed key + if family.key values = key then 1 else 0 := by
  refine ⟨{ store with
      histograms := store.histograms.alter (family.key values) fun histogram =>
        (histogram.getD (.new family.bounds)).observe value }, ?_, rfl, rfl, ?_⟩
  · simp only [observe, Labels.of, hfits, if_true]
    rfl
  intro key
  simp only [observed, Table.get?_alter]
  by_cases h : family.key values = key
  · subst h
    rw [if_pos rfl, if_pos rfl]
    cases hold : store.histograms.get? (family.key values) with
    | none => simp [Histogram.observe, Histogram.new]
    | some histogram => simp [Histogram.observe]
  · rw [if_neg h, if_neg h, Nat.add_zero]

theorem Posted.refl (store : Store) : Posted store [] store :=
  ⟨fun gauge => by simp, fun key => by simp, fun key => by simp⟩

theorem Posted.trans {store between after : Store} {front back : List Effect}
    (hfront : Posted store front between) (hback : Posted between back after) :
    Posted store (front ++ back) after := by
  refine ⟨?_, ?_, ?_⟩
  · intro gauge
    rw [hback.gauge, hfront.gauge, List.map_append, List.sum_append, Int64.ofInt_add,
      Int64.add_assoc]
  · intro key
    rw [hback.counted, hfront.counted, List.map_append, List.sum_append, UInt64.ofNat_add,
      UInt64.add_assoc]
  · intro key
    rw [hback.observed, hfront.observed, List.map_append, List.sum_append, Nat.add_assoc]

/-- An effect that fits is accepted, and adds what it says. -/
theorem apply_ok (store : Store) {effect : Effect} (hfits : effect.Fits) :
    ∃ after, store.apply effect = .ok after ∧ Posted store [effect] after := by
  -- Most effects concern no stored metric.
  have hnone : ∀ (h : store.apply effect = .ok store), (∀ gauge, effect.shift gauge = 0) →
      (∀ key, effect.counts key = 0) → (∀ key, effect.observes key = 0) →
      ∃ after, store.apply effect = .ok after ∧ Posted store [effect] after := by
    intro h hshift hcounts hobserves
    exact ⟨store, h, fun gauge => by simp [hshift], fun key => by simp [hcounts],
      fun key => by simp [hobserves]⟩
  cases effect with
  | raise sink =>
      cases sink with
      | gauge gauge =>
          refine ⟨_, rfl, fun other => ?_, fun key => ?_, fun key => ?_⟩
          · rw [gauge_shift]
            by_cases h : gauge = other <;> simp [Effect.shift, h]
          · simp [Effect.counts, Store.shift, counted]
          · simp [Effect.observes, Store.shift, observed]
      | probe name => exact hnone rfl (fun _ => rfl) (fun _ => rfl) (fun _ => rfl)
  | lower sink =>
      cases sink with
      | gauge gauge =>
          refine ⟨_, rfl, fun other => ?_, fun key => ?_, fun key => ?_⟩
          · rw [gauge_shift]
            by_cases h : gauge = other <;> simp [Effect.shift, h]
          · simp [Effect.counts, Store.shift, counted]
          · simp [Effect.observes, Store.shift, observed]
      | probe name => exact hnone rfl (fun _ => rfl) (fun _ => rfl) (fun _ => rfl)
  | count sink values =>
      cases sink with
      | family family =>
          obtain ⟨after, hok, hgauges, hhistograms, hcounted⟩ := count_ok store hfits 1
          refine ⟨after, hok, fun gauge => ?_, fun key => ?_, fun key => ?_⟩
          · simp [Effect.shift, Store.gauge, hgauges]
          · rw [hcounted]
            by_cases h : family.key values = key <;> simp [Effect.counts, h]
          · simp [Effect.observes, observed, hhistograms]
      | probe name labels => exact hnone rfl (fun _ => rfl) (fun _ => rfl) (fun _ => rfl)
  | observe sink reading values =>
      cases sink with
      | family family =>
          obtain ⟨after, hok, hgauges, hcounters, hobserved⟩ :=
            observe_ok store hfits reading.seconds
          refine ⟨after, hok, fun gauge => ?_, fun key => ?_, fun key => ?_⟩
          · simp [Effect.shift, Store.gauge, hgauges]
          · simp [Effect.counts, counted, hcounters]
          · rw [hobserved]
            by_cases h : family.key values = key <;> simp [Effect.observes, h]
      | probe name labels => exact hnone rfl (fun _ => rfl) (fun _ => rfl) (fun _ => rfl)
  | note tag phase reading => exact hnone rfl (fun _ => rfl) (fun _ => rfl) (fun _ => rfl)
  | hear listener event => exact hnone rfl (fun _ => rfl) (fun _ => rfl) (fun _ => rfl)
  | log record => exact hnone rfl (fun _ => rfl) (fun _ => rfl) (fun _ => rfl)

/-- An effect that does not fit is refused. -/
theorem apply_refused (store : Store) {effect : Effect} (hfits : ¬ effect.Fits) :
    ∃ mismatch, store.apply effect = .error mismatch := by
  cases effect with
  | raise sink => exact absurd trivial hfits
  | lower sink => exact absurd trivial hfits
  | count sink values =>
      cases sink with
      | family family =>
          have hne : ¬ family.names.length = values.length := hfits
          exact ⟨_, by simp only [apply, Store.count, Labels.of, if_neg hne]; rfl⟩
      | probe name labels => exact absurd trivial hfits
  | observe sink reading values =>
      cases sink with
      | family family =>
          have hne : ¬ family.names.length = values.length := hfits
          exact ⟨_, by simp only [apply, Store.observe, Labels.of, if_neg hne]; rfl⟩
      | probe name labels => exact absurd trivial hfits
  | note tag phase reading => exact absurd trivial hfits
  | hear listener event => exact absurd trivial hfits
  | log record => exact absurd trivial hfits

/-! ### All effects of a run -/

theorem applyAll_cons_ok {store between : Store} {effect : Effect} {rest : List Effect}
    (hok : store.apply effect = .ok between) :
    store.applyAll (effect :: rest) = between.applyAll rest := by
  show (store.apply effect >>= fun next => rest.foldlM apply next) = rest.foldlM apply between
  rw [hok]
  rfl

/-- Effects that fit are accepted, and come to what they add up to. -/
theorem applyAll_ok {effects : List Effect} (hfits : ∀ effect ∈ effects, effect.Fits)
    (store : Store) : ∃ after, store.applyAll effects = .ok after ∧ Posted store effects after := by
  induction effects generalizing store with
  | nil => exact ⟨store, rfl, Posted.refl store⟩
  | cons effect rest ih =>
      obtain ⟨between, hone, hposted⟩ := apply_ok store (hfits effect (by simp))
      obtain ⟨after, hrest, hmore⟩ := ih (fun other h => hfits other (by simp [h])) between
      exact ⟨after, by rw [applyAll_cons_ok hone, hrest], hposted.trans hmore⟩

/-- One effect that does not fit is enough for all of them to be refused. -/
theorem applyAll_refused {effects : List Effect} (hfits : ¬ ∀ effect ∈ effects, effect.Fits)
    (store : Store) : ∃ mismatch, store.applyAll effects = .error mismatch := by
  induction effects generalizing store with
  | nil => exact absurd (by simp) hfits
  | cons effect rest ih =>
      by_cases hone : effect.Fits
      · obtain ⟨between, hok, -⟩ := apply_ok store hone
        have hrest : ¬ ∀ other ∈ rest, other.Fits := by
          intro h
          exact hfits fun other hother => by
            rcases List.mem_cons.mp hother with rfl | hmem
            · exact hone
            · exact h other hmem
        rw [applyAll_cons_ok hok]
        exact ih hrest between
      · obtain ⟨mismatch, hmismatch⟩ := apply_refused store hone
        refine ⟨mismatch, ?_⟩
        show (store.apply effect >>= fun next => rest.foldlM apply next) = _
        rw [hmismatch]
        rfl

/-- Whatever was accepted has come to what it adds up to. -/
theorem posted {store after : Store} {effects : List Effect}
    (hok : store.applyAll effects = .ok after) : Posted store effects after := by
  by_cases hfits : ∀ effect ∈ effects, effect.Fits
  · obtain ⟨after', hok', hposted⟩ := applyAll_ok hfits store
    rw [hok] at hok'
    cases hok'
    exact hposted
  · obtain ⟨mismatch, hrefused⟩ := applyAll_refused hfits store
    rw [hok] at hrefused
    cases hrefused

/-! ### Words add up as the numbers do -/

theorem ofInt_sum {α : Type} (l : List α) (amount : α → Int) :
    Int64.ofInt (l.map amount).sum = (l.map fun a => Int64.ofInt (amount a)).sum := by
  induction l with
  | nil => rfl
  | cons a rest ih =>
      rw [List.map_cons, List.map_cons, List.sum_cons, List.sum_cons, Int64.ofInt_add, ih]

theorem ofNat_sum {α : Type} (l : List α) (amount : α → Nat) :
    UInt64.ofNat (l.map amount).sum = (l.map fun a => UInt64.ofNat (amount a)).sum := by
  induction l with
  | nil => rfl
  | cons a rest ih =>
      rw [List.map_cons, List.map_cons, List.sum_cons, List.sum_cons, UInt64.ofNat_add, ih]

/-! ### The order of effects makes no difference to the store -/

/-- Two outcomes of making good on effects that no gauge, no counter and no number of
observations tells apart. -/
def Agree : Except LabelMismatch Store → Except LabelMismatch Store → Prop
  | .ok store, .ok other =>
    (∀ gauge, store.gauge gauge = other.gauge gauge) ∧
    (∀ key, store.counted key = other.counted key) ∧
    ∀ key, store.observed key = other.observed key
  | .error _, .error _ => True
  | _, _ => False

theorem applyAll_perm {effects others : List Effect} (hperm : effects.Perm others)
    (store : Store) : Agree (store.applyAll effects) (store.applyAll others) := by
  by_cases hfits : ∀ effect ∈ effects, effect.Fits
  · have hfits' : ∀ effect ∈ others, effect.Fits := by
      intro effect hmem
      exact hfits effect (hperm.mem_iff.mpr hmem)
    obtain ⟨after, hok, hposted⟩ := applyAll_ok hfits store
    obtain ⟨after', hok', hposted'⟩ := applyAll_ok hfits' store
    rw [hok, hok']
    refine ⟨?_, ?_, ?_⟩
    · intro gauge
      rw [hposted.gauge, hposted'.gauge, (hperm.map (Effect.shift gauge)).sum_eq]
    · intro key
      rw [hposted.counted, hposted'.counted, (hperm.map (Effect.counts key)).sum_eq]
    · intro key
      rw [hposted.observed, hposted'.observed, (hperm.map (Effect.observes key)).sum_eq]
  · have hfits' : ¬ ∀ effect ∈ others, effect.Fits := by
      intro h
      exact hfits fun effect hmem => h effect (hperm.mem_iff.mp hmem)
    obtain ⟨mismatch, hrefused⟩ := applyAll_refused hfits store
    obtain ⟨mismatch', hrefused'⟩ := applyAll_refused hfits' store
    rw [hrefused, hrefused']
    exact trivial

end Store

end Telemetry
