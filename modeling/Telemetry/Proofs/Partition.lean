/-
Families that partition the same responses agree.

Five families are given, declared by both labels in either order, by one label alone, and
by none, and every service records in each of them through one layer.  The five layers
stand anywhere among others, and each keeps a stage of its own.  Still no response is
missed by one of them, or counted twice, or put in another's place, because the same list
of pairs of code and method settles all five tallies (`Family.tally_eq`).

What remains is about lists: to count the pairs that satisfy a condition, one may count
those among them with each value of some part, and add up.  Only finitely many values
occur, so the sums over all strings are finite ones.
-/
import Mathlib.Algebra.BigOperators.Finprod
import Telemetry.Proofs.Dispatch
import Telemetry.Proofs.Families

namespace Telemetry

/-- Five families that partition responses by both labels, by one, and not at all. -/
structure Partition where
  byBoth : Family
  swapped : Family
  byMethod : Family
  byCode : Family
  whole : Family
  byBoth_names : byBoth.names = [Label.code.name, Label.method.name]
  swapped_names : swapped.names = [Label.method.name, Label.code.name]
  byMethod_names : byMethod.names = [Label.method.name]
  byCode_names : byCode.names = [Label.code.name]
  whole_names : whole.names = []

namespace Partition

/-- All five of them. -/
def families (partition : Partition) : List Family :=
  [partition.byBoth, partition.swapped, partition.byMethod, partition.byCode, partition.whole]

/-- Idle traffic each of whose services records once in each of the families. -/
structure Carries (partition : Partition) (traffic : Traffic) : Prop where
  idle : traffic.exchanges = .empty
  services : ∀ service ∈ traffic.services, ∀ family ∈ partition.families,
    family.OneIn service.stack

/-- Steps that hand in requests whose own listeners leave the families alone. -/
def SparedBy (partition : Partition) (steps : List Traffic.Step) : Prop :=
  ∀ step ∈ steps, ∀ request ∈ step.request?, ∀ leaf ∈ request.leaves,
    ∀ family ∈ partition.families, leaf.Only (Effect.Spares family)

/-- Whether the layers beside those that record in the families, and the requests' own
listeners, give every family as many label values as it has names. -/
structure Fitting (partition : Partition) (traffic : Traffic) (steps : List Traffic.Step) :
    Prop where
  layers : ∀ service ∈ traffic.services, ∀ layer ∈ service.stack,
    (∃ family ∈ partition.families, ∃ order, layer = .record family.recorder order) ∨
      layer.Only Effect.Fits
  requests : ∀ step ∈ steps, ∀ request ∈ step.request?, ∀ leaf ∈ request.leaves,
    leaf.Only Effect.Fits

/-- A store in which the families' tallies are at zero. -/
def Untouched (partition : Partition) (store : Store) : Prop :=
  ∀ family ∈ partition.families, ∀ values, family.tally store values = 0

/-- The tallies that a store shows agree with each other. -/
structure Consistent (partition : Partition) (store : Store) : Prop where
  /-- Only finitely many codes and methods occur, so that the sums below are true sums. -/
  finite : {pair : String × String |
    partition.byBoth.tally store [pair.1, pair.2] ≠ 0}.Finite
  swapped : ∀ code method, partition.byBoth.tally store [code, method]
    = partition.swapped.tally store [method, code]
  byMethod : ∀ method, partition.byMethod.tally store [method]
    = ∑ᶠ code, partition.byBoth.tally store [code, method]
  byCode : ∀ code, partition.byCode.tally store [code]
    = ∑ᶠ method, partition.byBoth.tally store [code, method]
  whole : partition.whole.tally store []
    = ∑ᶠ pair : String × String, partition.byBoth.tally store [pair.1, pair.2]

end Partition

/-! ### Counting by parts -/

section Parts

variable {α β : Type} [DecidableEq β]

/-- Only values that occur are counted. -/
theorem countP_part_finite (l : List α) (part : α → β) (p : α → Bool) :
    (Function.support fun b => l.countP fun a => p a && part a = b).Finite := by
  refine (l.map part).finite_toSet.subset fun b hb => ?_
  obtain ⟨a, ha, hcond⟩ := List.countP_pos_iff.mp (Nat.pos_of_ne_zero hb)
  simp only [Bool.and_eq_true, decide_eq_true_eq] at hcond
  exact List.mem_map.mpr ⟨a, ha, hcond.2⟩

/-- What satisfies a condition can be counted part by part. -/
theorem finsum_countP_part (l : List α) (part : α → β) (p : α → Bool) :
    ∑ᶠ b, (l.countP fun a => p a && part a = b) = l.countP p := by
  induction l with
  | nil => simp
  | cons a rest ih =>
      have hone : ∑ᶠ b, (if (p a && part a = b) = true then 1 else 0) = if p a then 1 else 0 := by
        rw [finsum_eq_single _ (part a)]
        · simp
        · intro b hb
          simp [hb.symm]
      have hfinite : (Function.support fun b =>
          if (p a && part a = b) = true then 1 else 0).Finite := by
        simpa [List.countP_cons] using countP_part_finite [a] part p
      simp only [List.countP_cons]
      rw [finsum_add_distrib (countP_part_finite rest part p) hfinite, ih, hone]

end Parts

namespace Partition

variable {partition : Partition}

/-- Tallies of one list of pairs agree, and the finest of them counts each pair. -/
theorem consistent_of_tallies {after : Store} (labels : List (String × String))
    (htally : ∀ family ∈ partition.families, ∀ order : LabelOrder, order.names = family.names →
      ∀ code method, family.tally after (order.values code method)
        = labels.countP fun pair => order.values pair.1 pair.2 = order.values code method) :
    (∀ code method, partition.byBoth.tally after [code, method] = labels.count (code, method)) ∧
      partition.Consistent after := by
  have hread : ∀ {family : Family} (order : LabelOrder) (code method : String)
      {p : String × String → Bool}, family ∈ partition.families → order.names = family.names →
      (∀ pair, order.values pair.1 pair.2 = order.values code method ↔ p pair = true) →
        family.tally after (order.values code method) = labels.countP p := by
    intro family order code method p hfamily hnames hpairs
    rw [htally family hfamily order hnames]
    exact List.countP_congr fun pair _ => by rw [decide_eq_true_eq, hpairs]
  have hboth : ∀ code method, partition.byBoth.tally after [code, method]
      = labels.countP fun pair => pair.2 = method && pair.1 = code :=
    fun code method => hread ⟨[.code, .method], by decide⟩ code method (by simp [families])
      partition.byBoth_names.symm (by simp [LabelOrder.values, and_comm])
  have hswapped : ∀ code method, partition.swapped.tally after [method, code]
      = labels.countP fun pair => pair.2 = method && pair.1 = code :=
    fun code method => hread ⟨[.method, .code], by decide⟩ code method (by simp [families])
      partition.swapped_names.symm (by simp [LabelOrder.values])
  -- Where a family has no place for the code or the method, any will do.
  have hmethod : ∀ method, partition.byMethod.tally after [method]
      = labels.countP fun pair => pair.2 = method :=
    fun method => hread ⟨[.method], by decide⟩ "" method (by simp [families])
      partition.byMethod_names.symm (by simp [LabelOrder.values])
  have hcode : ∀ code, partition.byCode.tally after [code]
      = labels.countP fun pair => pair.1 = code :=
    fun code => hread ⟨[.code], by decide⟩ code "" (by simp [families])
      partition.byCode_names.symm (by simp [LabelOrder.values])
  have hwhole : partition.whole.tally after [] = labels.countP fun _ => true :=
    hread ⟨[], by decide⟩ "" "" (by simp [families])
      partition.whole_names.symm (by simp [LabelOrder.values])
  have hpair : ∀ pair : String × String, partition.byBoth.tally after [pair.1, pair.2]
      = labels.countP fun other => true && other = pair := by
    intro pair
    rw [hboth]
    exact List.countP_congr fun other _ => by simp [Prod.ext_iff, and_comm]
  refine ⟨fun code method => ?_, ?_, fun code method => by rw [hboth, hswapped], ?_, ?_, ?_⟩
  · rw [hpair (code, method), List.count]
    exact List.countP_congr fun other _ => by simp
  · simp only [hpair]
    exact countP_part_finite labels id fun _ => true
  · intro method
    simp only [hboth, hmethod]
    exact (finsum_countP_part labels Prod.fst _).symm
  · intro code
    simp only [hboth, hcode, Bool.and_comm (decide (_ = _)) (decide (_ = code))]
    exact (finsum_countP_part labels Prod.snd _).symm
  · simp only [hpair, hwhole]
    exact (finsum_countP_part labels id _).symm

/--
**Families that partition the same responses agree.**

Whatever steps are taken by traffic whose services record once in each of the five
families, the store does not refuse the effects on account of the families.  If it
accepts them, and fewer than 2⁶⁴ requests were handed in, then it shows for both labels
how many requests were recorded with them.  That is the same in either order, and adds
up, over all codes, all methods or all pairs of them, to what it shows for a method, for a
code and for no label.
-/
theorem tallies_consistent {traffic : Traffic} (hcarries : partition.Carries traffic)
    {steps : List Traffic.Step} (hspared : partition.SparedBy steps) {store : Store}
    (huntouched : partition.Untouched store) :
    let here := (History.start traffic).run steps
    (partition.Fitting traffic steps → ∃ after, store.applyAll here.effects = .ok after) ∧
    ∀ after, store.applyAll here.effects = .ok after → here.journeys.length < 2 ^ 64 →
      (∀ code method, partition.byBoth.tally after [code, method]
        = here.labels.count (code, method)) ∧ partition.Consistent after := by
  intro here
  have hfaithful : here.Faithful := History.Faithful.run hcarries.idle steps
  have hsorted : ∀ journey ∈ here.journeys, ∀ family ∈ partition.families,
      family.Sorted journey := by
    intro journey hmem family hfamily
    obtain ⟨hstack, hrequest⟩ := History.journeys_within
      (S := fun stack => stack = [] ∨ ∀ family ∈ partition.families, family.OneIn stack)
      (.inl rfl) hspared (fun service hservice => .inr (hcarries.services service hservice))
      journey hmem
    refine ⟨hstack.imp_right fun h => h family hfamily, ?_⟩
    exact fun leaf hleaf => hrequest leaf hleaf family hfamily
  refine ⟨fun hfitting => ?_, ?_⟩
  · have hfits : ∀ journey ∈ here.journeys, (∀ layer ∈ journey.stack, layer.Only Effect.Fits) ∧
        ∀ leaf ∈ journey.request.leaves, leaf.Only Effect.Fits := by
      refine History.journeys_within
        (S := fun stack => ∀ layer ∈ stack, layer.Only Effect.Fits)
        (fun _ h => absurd h (List.not_mem_nil)) hfitting.requests ?_
      intro service hservice layer hlayer
      rcases hfitting.layers service hservice layer hlayer with
        ⟨family, hfamily, order, rfl⟩ | honly
      · exact family.record_fits
          ((hcarries.services service hservice family hfamily).names hlayer)
      · exact honly
    exact hfaithful.accepted (fun journey hmem => (hfits journey hmem).1)
      (fun journey hmem => (hfits journey hmem).2) store
  · intro after hok hbound
    refine consistent_of_tallies here.labels fun family hfamily order hnames code method => ?_
    exact Family.tally_eq hfaithful (fun journey hmem => hsorted journey hmem family hfamily) hbound
      (huntouched family hfamily) (Store.posted hok) hnames code method

/-- Five layers, one of them over a histogram, and two requests that are answered, one of
them through a copy of the service. -/
theorem tallies_consistent_two :
    let byBoth : CounterFamily := ⟨0, [Label.code.name, Label.method.name]⟩
    let swapped : HistogramFamily := ⟨0, [Label.method.name, Label.code.name], []⟩
    let byMethod : CounterFamily := ⟨1, [Label.method.name]⟩
    let byCode : CounterFamily := ⟨2, [Label.code.name]⟩
    let whole : CounterFamily := ⟨3, []⟩
    let partition : Partition := ⟨.counters byBoth, .durations swapped, .counters byMethod,
      .counters byCode, .counters whole, rfl, rfl, rfl, rfl, rfl⟩
    let layers : Stack :=
      [.record (.count (.family whole)) ⟨[], by decide⟩,
       .record (.count (.family byMethod)) ⟨[.method], by decide⟩,
       .record (.observe (.family swapped)) ⟨[.method, .code], by decide⟩,
       .record (.count (.family byBoth)) ⟨[.code, .method], by decide⟩,
       .record (.count (.family byCode)) ⟨[.code], by decide⟩]
    let traffic : Traffic := ⟨.start, .ready, [⟨layers, .scripted, 0⟩], .empty⟩
    let request : Request := ⟨⟨"GET", by decide⟩, .ofString "/", .none, "", none⟩
    let response : Http.Response := ⟨⟨200, by decide, by decide⟩, .none, ""⟩
    let steps : List Traffic.Step :=
      [.copy 0, .call "a" 0 request [.wait ⟨5⟩], .call "b" 1 request [],
       .settle "a" (.answered response), .look "a", .look "a",
       .settle "b" (.answered response), .look "b"]
    ∃ after, Store.empty.applyAll ((History.start traffic).run steps).effects = .ok after ∧
      partition.Consistent after ∧ after.counted (byBoth.key ["200", "get"]) = 2 ∧
      after.observed (swapped.key ["get", "200"]) = 2 := by
  intro byBoth swapped byMethod byCode whole partition layers traffic request response steps
  have hone : ∀ family ∈ partition.families, family.OneIn layers := by
    intro family hfamily
    simp only [families, List.mem_cons, List.not_mem_nil, or_false] at hfamily
    rcases hfamily with rfl | rfl | rfl | rfl | rfl
    · refine ⟨_, layers.take 3, layers.drop 4, rfl, rfl, ?_⟩
      simp [layers, Layer.Only, Recorder.record, Effect.Spares, partition, byBoth, swapped,
        byMethod, byCode, whole]
    · refine ⟨_, layers.take 2, layers.drop 3, rfl, rfl, ?_⟩
      simp [layers, Layer.Only, Recorder.record, Effect.Spares, partition]
    · refine ⟨_, layers.take 1, layers.drop 2, rfl, rfl, ?_⟩
      simp [layers, Layer.Only, Recorder.record, Effect.Spares, partition, byBoth, swapped,
        byMethod, byCode, whole]
    · refine ⟨_, layers.take 4, layers.drop 5, rfl, rfl, ?_⟩
      simp [layers, Layer.Only, Recorder.record, Effect.Spares, partition, byBoth, swapped,
        byMethod, byCode, whole]
    · refine ⟨_, layers.take 0, layers.drop 1, rfl, rfl, ?_⟩
      simp [layers, Layer.Only, Recorder.record, Effect.Spares, partition, byBoth, swapped,
        byMethod, byCode, whole]
  have hcarries : partition.Carries traffic := by
    refine ⟨rfl, ?_⟩
    intro service hservice
    rw [List.mem_singleton.mp hservice]
    exact hone
  have hbare : ∀ step ∈ steps, ∀ handed ∈ step.request?, handed.leaves = [] := by
    intro step hstep handed hhanded
    simp only [steps, List.mem_cons, List.not_mem_nil, or_false] at hstep
    rcases hstep with rfl | rfl | rfl | rfl | rfl | rfl | rfl | rfl <;> cases hhanded <;> rfl
  have hspared : partition.SparedBy steps := by
    intro step hstep handed hhanded leaf hleaf
    rw [hbare step hstep handed hhanded] at hleaf
    exact absurd hleaf (List.not_mem_nil)
  have huntouched : partition.Untouched .empty := by
    intro family _ values
    cases family <;> rfl
  have hfitting : partition.Fitting traffic steps := by
    refine ⟨?_, ?_⟩
    · intro service hservice layer hlayer
      rw [List.mem_singleton.mp hservice] at hlayer
      simp only [layers, List.mem_cons, List.not_mem_nil, or_false] at hlayer
      refine .inl ?_
      rcases hlayer with rfl | rfl | rfl | rfl | rfl
      · exact ⟨.counters whole, by simp [families, partition], _, rfl⟩
      · exact ⟨.counters byMethod, by simp [families, partition], _, rfl⟩
      · exact ⟨.durations swapped, by simp [families, partition], _, rfl⟩
      · exact ⟨.counters byBoth, by simp [families, partition], _, rfl⟩
      · exact ⟨.counters byCode, by simp [families, partition], _, rfl⟩
    · intro step hstep handed hhanded leaf hleaf
      rw [hbare step hstep handed hhanded] at hleaf
      exact absurd hleaf (List.not_mem_nil)
  obtain ⟨haccepted, hconsistent⟩ := tallies_consistent hcarries hspared huntouched
  obtain ⟨after, hok⟩ := haccepted hfitting
  obtain ⟨htally, hagree⟩ := hconsistent after hok (by decide)
  have hcounted : after.counted (byBoth.key ["200", "get"]) = 2 :=
    UInt64.toNat_inj.mp ((htally "200" "get").trans (by decide))
  refine ⟨after, hok, hagree, hcounted, ?_⟩
  have hswapped : (after.counted (byBoth.key ["200", "get"])).toNat
      = after.observed (swapped.key ["get", "200"]) := hagree.swapped "200" "get"
  rw [← hswapped, hcounted]
  rfl

end Partition

end Telemetry
