/-
What the requests come to in a metric.

By the account that a faithful history keeps, what all effects so far add to a metric is
the sum of what the deeds of each request add to it.  Of the deeds of one request, those
of a layer are known from the layer's share, and those of a listener need not be known:
it is enough that whatever a listener can do leaves the metric alone.  `Only` says so of
a listener, a hook table or a layer, for any property of effects.

A gauge is the simplest case.  Nothing moves a gauge but the layers that raise it, and
such a layer holds it raised for as long as no look at the request has shown a response.
-/
import Telemetry.Proofs.History
import Telemetry.Proofs.Posting

namespace Telemetry

/-! ### Sums over effects -/

section Sums

variable {M : Type} [AddCommMonoid M] (amount : Effect → M)

theorem sum_flatMap {α : Type} (l : List α) (does : α → List Effect) :
    ((l.flatMap does).map amount).sum = (l.map fun a => ((does a).map amount).sum).sum := by
  induction l with
  | nil => rfl
  | cons a rest ih =>
      rw [List.flatMap_cons, List.map_append, List.sum_append, ih, List.map_cons, List.sum_cons]

theorem sum_none {effects : List Effect} (hnone : ∀ effect ∈ effects, amount effect = 0) :
    (effects.map amount).sum = 0 := by
  rw [List.map_congr_left hnone]
  exact List.sum_eq_zero (by simp)

/-- What all effects so far add up to, request by request. -/
theorem History.Faithful.sum {history : History} (hfaithful : history.Faithful) :
    (history.effects.map amount).sum
      = (history.journeys.map fun journey => (journey.deeds.map amount).sum).sum := by
  rw [(hfaithful.accounted.map amount).sum_eq, sum_flatMap]

end Sums

/-- A sum of zeros and ones is a count. -/
theorem sum_countP {α : Type} (l : List α) (p : α → Bool) :
    (l.map fun a => if p a then 1 else 0).sum = l.countP p := by
  induction l with
  | nil => rfl
  | cons a rest ih =>
      rw [List.map_cons, List.sum_cons, ih, List.countP_cons, Nat.add_comm]

/-! ### All that a layer or a listener can do -/

section Only

variable (P : Effect → Prop)

/-- Whatever a hook of the table does is `P`. -/
def HookTable.Only (table : HookTable) : Prop :=
  ∀ {phase : Phase} {hook : Hook}, table.hook? phase = some hook →
    ∀ reading, P (hook.call reading)

/-- Whatever the leaf does, apart from writing to the log, is `P`. -/
def Leaf.Only : Leaf → Prop
  | probe name _ => ∀ event, P (.hear name event)
  | timer hooks _ => hooks.Only P

/-- Whatever the layer does, apart from writing to the log, is `P`. -/
def Layer.Only : Layer → Prop
  | inFlight sink => P (.raise sink) ∧ P (.lower sink)
  | record recorder order =>
    ∀ code method elapsed, P (recorder.record (order.values code method) elapsed)
  | trace hooks => hooks.Only P

variable {P}

theorem HookTable.Only.mono {P Q : Effect → Prop} (himp : ∀ effect, P effect → Q effect)
    {table : HookTable} (honly : table.Only P) : table.Only Q := by
  intro phase hook hhook reading
  exact himp _ (honly hhook reading)

theorem Leaf.Only.mono {P Q : Effect → Prop} (himp : ∀ effect, P effect → Q effect) {leaf : Leaf}
    (honly : leaf.Only P) : leaf.Only Q := by
  cases leaf with
  | probe name attention => exact fun event => himp _ (honly event)
  | timer hooks start => exact HookTable.Only.mono himp honly

theorem Layer.Only.mono {P Q : Effect → Prop} (himp : ∀ effect, P effect → Q effect)
    {layer : Layer} (honly : layer.Only P) : layer.Only Q := by
  cases layer with
  | inFlight sink => exact ⟨himp _ honly.1, himp _ honly.2⟩
  | record recorder order => exact fun code method elapsed => himp _ (honly code method elapsed)
  | trace hooks => exact HookTable.Only.mono himp honly

theorem Leaf.Only.heard (hlog : ∀ record, P (.log record)) {leaf : Leaf} (honly : leaf.Only P)
    (event : Event) (now : Instant) : ∀ effect ∈ leaf.heard event now, P effect := by
  intro effect hmem
  cases leaf with
  | probe name attention =>
      rw [Leaf.heard] at hmem
      by_cases hnotices : attention.notices event.phase = true
      · rw [if_pos hnotices, List.mem_singleton] at hmem
        rw [hmem]
        exact honly event
      · rw [if_neg hnotices] at hmem
        exact absurd hmem (List.not_mem_nil)
  | timer hooks start =>
      rw [Leaf.heard] at hmem
      cases hfailure : event.failure with
      | some error =>
          rw [hfailure, List.mem_singleton] at hmem
          rw [hmem]
          exact hlog _
      | none =>
          rw [hfailure] at hmem
          cases hhook : hooks.hook? event.phase with
          | none =>
              rw [hhook] at hmem
              exact absurd hmem (List.not_mem_nil)
          | some hook =>
              rw [hhook] at hmem
              rcases List.mem_pair.mp hmem with rfl | rfl
              · exact hlog _
              · exact honly hhook _

/-- All that a leaf can do is to show an event, write a reading down or observe it. -/
theorem Leaf.only_of (hhear : ∀ name event, P (.hear name event))
    (hnote : ∀ tag phase reading, P (.note tag phase reading))
    (hobserve : ∀ sink reading values, P (.observe sink reading values)) (leaf : Leaf) :
    leaf.Only P := by
  cases leaf with
  | probe name attention => exact hhear name
  | timer hooks start =>
      intro phase hook _ reading
      cases hook with
      | note tag phase => exact hnote tag phase reading
      | observe sink values => exact hobserve sink reading values

/-- The timer of a layer does what the layer can do. -/
theorem Layer.Only.timers {layer : Layer} (honly : layer.Only P) (start : Instant) :
    ∀ leaf ∈ layer.timers start, leaf.Only P := by
  intro leaf hmem
  cases layer with
  | inFlight sink => exact absurd hmem (List.not_mem_nil)
  | record recorder order => exact absurd hmem (List.not_mem_nil)
  | trace hooks =>
      rw [Layer.timers, List.mem_singleton] at hmem
      rw [hmem]
      exact honly

theorem Layer.Only.share (hlog : ∀ record, P (.log record)) {layer : Layer}
    (honly : layer.Only P) (journey : Journey) :
    ∀ effect ∈ layer.share journey.start journey.method journey.sights, P effect := by
  intro effect hmem
  cases layer with
  | inFlight sink =>
      rw [Journey.share_inFlight] at hmem
      rcases List.mem_cons.mp hmem with rfl | hlower
      · exact honly.1
      · by_cases hanswered : journey.answered = true
        · rw [if_pos hanswered, List.mem_singleton] at hlower
          rw [hlower]
          exact honly.2
        · rw [if_neg hanswered] at hlower
          exact absurd hlower (List.not_mem_nil)
  | record recorder order =>
      rw [Journey.share_record] at hmem
      cases hsettled : journey.settled? with
      | none =>
          rw [hsettled] at hmem
          exact absurd hmem (List.not_mem_nil)
      | some first =>
          obtain ⟨now, seen⟩ := first
          rw [hsettled] at hmem
          cases seen with
          | pending => exact absurd hmem (List.not_mem_nil)
          | failed error =>
              have hrecord := List.mem_singleton.mp hmem
              rw [hrecord]
              exact hlog _
          | answered response =>
              rcases List.mem_pair.mp hmem with rfl | rfl
              · exact hlog _
              · exact honly _ _ _
  | trace hooks => exact absurd hmem (List.not_mem_nil)

/-- What a layer does about a look belongs to what it does for the request. -/
theorem Layer.Only.onSight {P : Effect → Prop} (hlog : ∀ record, P (.log record)) {layer : Layer}
    (honly : layer.Only P) (journey : Journey) (sight : Sight) :
    ∀ effect ∈ layer.onSight journey.start journey.method journey.sights sight, P effect := by
  intro effect hmem
  obtain ⟨stage, hstage, hdoes⟩ := List.mem_flatMap.mp hmem
  obtain ⟨kept, hkept, rfl⟩ := List.mem_map.mp hstage
  refine honly.share hlog (journey.see sight) effect ?_
  refine List.mem_append_right _ (List.mem_flatMap.mpr ⟨kept, hkept, ?_⟩)
  rw [Journey.see, Stage.story_append, Stage.story, Stage.story, List.append_nil]
  exact List.mem_append_right _ hdoes

namespace Journey

theorem told_only (hlog : ∀ record, P (.log record)) {journey : Journey}
    (hown : ∀ leaf ∈ journey.request.leaves, leaf.Only P)
    (hlayers : ∀ layer ∈ journey.stack, ∀ leaf ∈ layer.timers journey.start, leaf.Only P) :
    ∀ effect ∈ journey.told, P effect := by
  intro effect hmem
  obtain ⟨one, -, hone⟩ := List.mem_flatMap.mp hmem
  obtain ⟨leaf, hleaf, heffect⟩ := List.mem_flatMap.mp hone
  rw [reached, Stack.reached, Request.leaves_attachEach, List.mem_append] at hleaf
  rcases hleaf with hrequest | htimers
  · exact (hown leaf hrequest).heard hlog _ _ effect heffect
  · obtain ⟨layer, hlayer, htimer⟩ := List.mem_flatMap.mp htimers
    exact (hlayers layer hlayer leaf htimer).heard hlog _ _ effect heffect

/-- If all that can happen to a request is `P`, so is all that was done for it. -/
theorem deeds_only (hlog : ∀ record, P (.log record)) {journey : Journey}
    (hown : ∀ leaf ∈ journey.request.leaves, leaf.Only P)
    (hlayers : ∀ layer ∈ journey.stack, layer.Only P) :
    ∀ effect ∈ journey.deeds, P effect := by
  intro effect hmem
  rcases List.mem_append.mp hmem with hrecorded | htold
  · obtain ⟨layer, hlayer, hshare⟩ := List.mem_flatMap.mp hrecorded
    exact (hlayers layer hlayer).share hlog journey effect hshare
  · refine told_only hlog hown ?_ effect htold
    intro layer hlayer
    exact (hlayers layer hlayer).timers journey.start

end Journey

end Only

/-- If all that can happen to the requests gives every family as many label values as it
has names, the store refuses nothing of what was done. -/
theorem History.Faithful.accepted {history : History} (hfaithful : history.Faithful)
    (hlayers : ∀ journey ∈ history.journeys, ∀ layer ∈ journey.stack, layer.Only Effect.Fits)
    (hown : ∀ journey ∈ history.journeys, ∀ leaf ∈ journey.request.leaves,
      leaf.Only Effect.Fits) (store : Store) :
    ∃ after, store.applyAll history.effects = .ok after := by
  have hfits : ∀ effect ∈ history.effects, effect.Fits := by
    intro effect hmem
    obtain ⟨journey, hjourney, hdeed⟩ :=
      List.mem_flatMap.mp (hfaithful.accounted.mem_iff.mp hmem)
    exact Journey.deeds_only (fun _ => trivial) (hown journey hjourney)
      (hlayers journey hjourney) effect hdeed
  obtain ⟨after, hok, -⟩ := Store.applyAll_ok hfits store
  exact ⟨after, hok⟩

/-- If no listener adds anything, all is added by the layers. -/
theorem Journey.sum_deeds {M : Type} [AddCommMonoid M] {amount : Effect → M}
    (hlog : ∀ record, amount (.log record) = 0) {journey : Journey}
    (hown : ∀ leaf ∈ journey.request.leaves, leaf.Only fun effect => amount effect = 0)
    (hlayers : ∀ layer ∈ journey.stack, ∀ leaf ∈ layer.timers journey.start,
      leaf.Only fun effect => amount effect = 0) :
    (journey.deeds.map amount).sum
      = (journey.stack.map fun layer =>
          ((layer.share journey.start journey.method journey.sights).map amount).sum).sum := by
  have htold : (journey.told.map amount).sum = 0 :=
    sum_none _ (told_only hlog hown hlayers)
  rw [deeds, List.map_append, List.sum_append, htold, add_zero, recorded, sum_flatMap]

/-- Layers that add nothing add nothing for a request. -/
theorem Journey.sum_shares_none {M : Type} [AddCommMonoid M] {amount : Effect → M}
    (hlog : ∀ record, amount (.log record) = 0) (journey : Journey) {layers : Stack}
    (hnone : ∀ layer ∈ layers, layer.Only fun effect => amount effect = 0) :
    (layers.map fun layer =>
      ((layer.share journey.start journey.method journey.sights).map amount).sum).sum = 0 := by
  refine List.sum_eq_zero fun n hn => ?_
  obtain ⟨layer, hlayer, rfl⟩ := List.mem_map.mp hn
  exact sum_none _ ((hnone layer hlayer).share hlog journey)

/-! ### Gauges -/

/-- No listener moves a gauge. -/
theorem Leaf.only_unmoved (gauge : Gauge) (leaf : Leaf) :
    leaf.Only fun effect => effect.shift gauge = 0 := by
  refine leaf.only_of (fun _ _ => rfl) (fun _ _ _ => rfl) ?_
  intro sink reading values
  cases sink <;> rfl

namespace Journey

/-- What a layer moves a gauge by for one request. -/
theorem shift_share (journey : Journey) (gauge : Gauge) (layer : Layer) :
    ((layer.share journey.start journey.method journey.sights).map (Effect.shift gauge)).sum
      = if layer = .inFlight (.gauge gauge) then (if journey.answered then 0 else 1) else 0 := by
  cases layer with
  | inFlight sink =>
      rw [share_inFlight]
      cases sink with
      | gauge other =>
          by_cases hsame : other = gauge
          · subst hsame
            cases hanswered : journey.answered <;> simp [Effect.shift]
          · cases hanswered : journey.answered <;> simp [Effect.shift, hsame]
      | probe name => cases hanswered : journey.answered <;> simp [Effect.shift]
  | record recorder order =>
      have honly : (Layer.record recorder order).Only fun effect => effect.shift gauge = 0 := by
        intro code method elapsed
        cases recorder with
        | count sink => cases sink <;> rfl
        | observe sink => cases sink <;> rfl
      rw [if_neg (by simp)]
      exact sum_none _ (honly.share (fun _ => rfl) journey)
  | trace hooks => simp [share_trace]

/-- A request moves a gauge once for each of its layers that raise the gauge, until a
response is seen, and then no more. -/
theorem shift_deeds (journey : Journey) (gauge : Gauge) :
    (journey.deeds.map (Effect.shift gauge)).sum
      = if journey.answered then 0 else (journey.stack.count (.inFlight (.gauge gauge)) : Int) := by
  have hsum := journey.sum_deeds (fun record => show (Effect.log record).shift gauge = 0 from rfl)
    (fun leaf _ => leaf.only_unmoved gauge) fun _ _ leaf _ => leaf.only_unmoved gauge
  simp only [shift_share] at hsum
  rw [hsum]
  clear hsum
  induction journey.stack with
  | nil => cases journey.answered <;> rfl
  | cons layer inner ih =>
      rw [List.map_cons, List.sum_cons, ih, List.count_cons]
      by_cases hsame : layer = .inFlight (.gauge gauge)
      · cases journey.answered <;> simp [hsame, add_comm]
      · cases journey.answered <;> simp [hsame]

end Journey

/-- How often the requests that no look has shown a response to hold a gauge raised. -/
def History.inFlight (history : History) (gauge : Gauge) : Nat :=
  ((history.journeys.filter fun journey => !journey.answered).map fun journey =>
    journey.stack.count (.inFlight (.gauge gauge))).sum

/-- **A gauge is moved by the requests in flight and by nothing else.** -/
theorem History.Faithful.gauge {history : History} (hfaithful : history.Faithful)
    (gauge : Gauge) :
    (history.effects.map (Effect.shift gauge)).sum = (history.inFlight gauge : Int) := by
  rw [hfaithful.sum, inFlight]
  clear hfaithful
  induction history.journeys with
  | nil => rfl
  | cons journey earlier ih =>
      rw [List.map_cons, List.sum_cons, ih, journey.shift_deeds, List.filter_cons]
      cases journey.answered with
      | true => simp
      | false => simp

end Telemetry
