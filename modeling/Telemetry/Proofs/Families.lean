/-
A family tallies the responses that it was declared for.

A family is known here by what it keeps: counters, or histograms of times.  What the
store shows of it under some label values is a tally, the count there or the number of
observations.  If one layer of every service records in the family, and nothing else
writes to it, then the tally counts requests, and one list settles it whatever the family
is declared by: the pairs of code and method of the requests whose first result was a
response.  Of these the family counts the ones that its order lays out as the values
asked for.

Where in a stack the recording layer stands makes no difference, for the share of a layer
depends on no other layer.
-/
import Telemetry.Proofs.Contribution
import Telemetry.Proofs.Wiring

namespace Telemetry

/-! ### Families and what they tally -/

/-- A family that the store keeps: of counters, or of histograms of times. -/
inductive Family
  | counters (family : CounterFamily)
  | durations (family : HistogramFamily)

namespace Family

/-- The label names that the family declares. -/
def names : Family → List String
  | counters family => family.names
  | durations family => family.names

/-- How a layer records in the family. -/
def recorder : Family → Recorder
  | counters family => .count (.family family)
  | durations family => .observe (.family family)

/-- What the store shows under some label values: what was counted, or the number of
observations. -/
def tally (store : Store) (values : List String) : Family → Nat
  | counters family => (store.counted (family.key values)).toNat
  | durations family => store.observed (family.key values)

/-- What an effect adds to the tally. -/
def amount (values : List String) : Family → Effect → Nat
  | counters family => Effect.counts (family.key values)
  | durations family => Effect.observes (family.key values)

end Family

/-- Whether an effect leaves a family alone. -/
def Effect.Spares (family : Family) (effect : Effect) : Prop :=
  match family, effect with
  | .counters family, .count (.family other) _ => other.id ≠ family.id
  | .durations family, .observe (.family other) _ _ => other.id ≠ family.id
  | _, _ => True

/-- Whether exactly one layer of a stack records in the family, in the order that the
family's names were checked to declare, while all others leave the family alone. -/
def Family.OneIn (family : Family) (stack : Stack) : Prop :=
  ∃ order outer inner, LabelOrder.check family.names = .ok order ∧
    stack = outer ++ .record family.recorder order :: inner ∧
    ∀ layer ∈ outer ++ inner, layer.Only (Effect.Spares family)

/-! ### What one request adds to a tally -/

/-- Whether the first result that a look has shown is a response with these values in
this order of labels. -/
def Journey.completes (order : LabelOrder) (values : List String) (journey : Journey) : Bool :=
  match journey.settled? with
  | some (_, .answered response) =>
    order.values response.status.text journey.request.method.lowered = values
  | _ => false

/-- A recording layer records one response at most: the first result to be seen. -/
theorem Journey.sum_share_record {amount : Effect → Nat} (hlog : ∀ record, amount (.log record) = 0)
    {recorder : Recorder} {order : LabelOrder} {values : List String}
    (hrecord : ∀ code method elapsed, amount (recorder.record (order.values code method) elapsed)
      = if order.values code method = values then 1 else 0) (journey : Journey) :
    (((Layer.record recorder order).share journey.start journey.method journey.sights).map
      amount).sum = if journey.completes order values then 1 else 0 := by
  rw [share_record]
  unfold completes
  cases hsettled : journey.settled? with
  | none => rfl
  | some first =>
      obtain ⟨now, seen⟩ := first
      cases seen with
      | pending => rfl
      | failed error =>
          show ([Effect.log _].map amount).sum = 0
          rw [List.map_singleton, List.sum_singleton, hlog]
      | answered response =>
          show amount (.log _) + (amount (recorder.record (order.values response.status.text
            journey.method) _) + 0) = _
          rw [hlog, hrecord, Nat.zero_add, Nat.add_zero, Journey.method, Http.Method.label_eq]
          simp only [decide_eq_true_eq]

namespace Family

variable {family : Family}

theorem amount_spares {effect : Effect} (hspares : effect.Spares family)
    (values : List String) : family.amount values effect = 0 := by
  cases family with
  | counters family =>
      cases effect with
      | count sink given =>
          cases sink with
          | family other =>
              have hid : other.id ≠ family.id := hspares
              exact if_neg fun heq => hid (congrArg SeriesKey.family heq)
          | probe name labels => rfl
      | raise | lower | observe | note | hear | log => rfl
  | durations family =>
      cases effect with
      | observe sink reading given =>
          cases sink with
          | family other =>
              have hid : other.id ≠ family.id := hspares
              exact if_neg fun heq => hid (congrArg SeriesKey.family heq)
          | probe name labels => rfl
      | raise | lower | count | note | hear | log => rfl

/-- A recording adds one under the values that it gives. -/
theorem amount_record {values given : List String} (hvalues : family.names.length = values.length)
    (hgiven : family.names.length = given.length) (elapsed : Duration) :
    family.amount values (family.recorder.record given elapsed)
      = if given = values then 1 else 0 := by
  cases family with
  | counters family =>
      simp only [amount, recorder, Recorder.record, Effect.counts,
        CounterFamily.key_inj hgiven hvalues]
  | durations family =>
      simp only [amount, recorder, Recorder.record, Effect.observes,
        HistogramFamily.key_inj hgiven hvalues]

theorem amount_log (values : List String) (record : LogRecord) :
    family.amount values (.log record) = 0 := by
  cases family <;> rfl

/-- A layer that records in the family adds one at most: if the first result was a response
that its order lays out as these values. -/
theorem sum_share (family : Family) {order : LabelOrder} (hnames : order.names = family.names)
    {values : List String} (hvalues : family.names.length = values.length) (journey : Journey) :
    (((Layer.record family.recorder order).share journey.start journey.method
      journey.sights).map (family.amount values)).sum
      = if journey.completes order values then 1 else 0 := by
  refine Journey.sum_share_record (amount_log values) (fun code method elapsed => ?_) journey
  refine amount_record hvalues ?_ elapsed
  rw [LabelOrder.length_values, hnames]

/-- It gives the family as many label values as the family has names. -/
theorem record_fits (family : Family) {order : LabelOrder}
    (hnames : order.names = family.names) :
    (Layer.record family.recorder order).Only Effect.Fits := by
  intro code method elapsed
  have hlength : family.names.length = (order.values code method).length := by
    rw [LabelOrder.length_values, hnames]
  cases family with
  | counters family => exact hlength
  | durations family => exact hlength

/-! ### Stacks with one layer for a family -/

/-- No timer of such a stack's layers writes to the family. -/
theorem OneIn.timers {stack : Stack} (hone : family.OneIn stack) (start : Instant) :
    ∀ layer ∈ stack, ∀ leaf ∈ layer.timers start, leaf.Only (Effect.Spares family) := by
  obtain ⟨order, outer, inner, -, rfl, hothers⟩ := hone
  intro layer hlayer leaf hleaf
  rcases List.mem_append.mp hlayer with houter | hown
  · exact (hothers layer (List.mem_append_left _ houter)).timers start leaf hleaf
  · rcases List.mem_cons.mp hown with rfl | hinner
    · exact absurd hleaf (List.not_mem_nil)
    · exact (hothers layer (List.mem_append_right _ hinner)).timers start leaf hleaf

/-- A request through such a stack adds what the one layer records of it. -/
theorem OneIn.sum {journey : Journey} (hone : family.OneIn journey.stack)
    (hown : ∀ leaf ∈ journey.request.leaves, leaf.Only (Effect.Spares family))
    {order : LabelOrder} (hnames : order.names = family.names) {values : List String}
    (hvalues : family.names.length = values.length) :
    (journey.deeds.map (family.amount values)).sum
      = if journey.completes order values then 1 else 0 := by
  have hspares : ∀ effect, effect.Spares family → family.amount values effect = 0 :=
    fun _ h => amount_spares h values
  have htimers := hone.timers journey.start
  obtain ⟨checked, outer, inner, hchecked, hstack, hothers⟩ := hone
  have horder : checked = order :=
    LabelOrder.eq_of_names ((LabelOrder.names_check hchecked).trans hnames.symm)
  subst horder
  have houter := journey.sum_shares_none (amount_log values) fun layer hlayer =>
    (hothers layer (List.mem_append_left inner hlayer)).mono hspares
  have hinner := journey.sum_shares_none (amount_log values) fun layer hlayer =>
    (hothers layer (List.mem_append_right outer hlayer)).mono hspares
  rw [Journey.sum_deeds (amount_log values) (fun leaf hleaf => (hown leaf hleaf).mono hspares)
      fun layer hlayer leaf hleaf => (htimers layer hlayer leaf hleaf).mono hspares,
    hstack, List.map_append, List.map_cons, List.sum_append, List.sum_cons, houter, hinner,
    family.sum_share hnames hvalues, Nat.zero_add, Nat.add_zero]

/-- Whichever layer of such a stack records in the family, it was given the family's
order. -/
theorem OneIn.names {stack : Stack} (hone : family.OneIn stack) {order : LabelOrder}
    (hmem : .record family.recorder order ∈ stack) : order.names = family.names := by
  obtain ⟨checked, outer, inner, hchecked, rfl, hothers⟩ := hone
  have hother : Layer.record family.recorder order ∉ outer ++ inner := by
    intro h
    have hspares := hothers _ h "" "" ⟨0⟩
    cases family with
    | counters family => exact hspares rfl
    | durations family => exact hspares rfl
  rcases List.mem_append.mp hmem with houter | hown
  · exact absurd (List.mem_append_left _ houter) hother
  · rcases List.mem_cons.mp hown with hsame | hinner
    · cases hsame
      exact LabelOrder.names_check hchecked
    · exact absurd (List.mem_append_right _ hinner) hother

end Family

/-! ### One list settles every tally -/

/-- The code and the method that a request is recorded with, if it went through any layers
and the first result that a look has shown is a response. -/
def Journey.labels? (journey : Journey) : Option (String × String) :=
  match journey.stack, journey.settled? with
  | _ :: _, some (_, .answered response) =>
    some (response.status.text, journey.request.method.lowered)
  | _, _ => none

/-- The pairs of code and method that requests were recorded with. -/
def History.labels (history : History) : List (String × String) :=
  history.journeys.filterMap Journey.labels?

theorem Journey.any_labels? {journey : Journey} (hlayers : journey.stack ≠ [])
    (order : LabelOrder) (values : List String) :
    (journey.labels?.any fun pair => order.values pair.1 pair.2 = values)
      = journey.completes order values := by
  unfold labels? completes
  cases hstack : journey.stack with
  | nil => exact absurd hstack hlayers
  | cons layer inner =>
      cases journey.settled? with
      | none => rfl
      | some first =>
          obtain ⟨now, seen⟩ := first
          cases seen <;> rfl

/-- The journeys that there are in traffic whose services record once in a family. -/
structure Family.Sorted (family : Family) (journey : Journey) : Prop where
  stack : journey.stack = [] ∨ family.OneIn journey.stack
  request : ∀ leaf ∈ journey.request.leaves, leaf.Only (Effect.Spares family)

namespace Family

variable {family : Family}

theorem Sorted.sum {journey : Journey} (hsorted : family.Sorted journey) {order : LabelOrder}
    (hnames : order.names = family.names) {values : List String}
    (hvalues : family.names.length = values.length) :
    (journey.deeds.map (family.amount values)).sum
      = if journey.labels?.any fun pair => order.values pair.1 pair.2 = values then 1 else 0 := by
  rcases hsorted.stack with hbare | hone
  · have hnone : journey.labels? = none := by
      unfold Journey.labels?
      rw [hbare]
    have hown : ∀ leaf ∈ journey.request.leaves,
        leaf.Only fun effect => family.amount values effect = 0 := by
      intro leaf hleaf
      exact (hsorted.request leaf hleaf).mono fun _ h => amount_spares h values
    have hlayers : ∀ layer ∈ journey.stack,
        layer.Only fun effect => family.amount values effect = 0 := by
      rw [hbare]
      exact fun _ h => absurd h (List.not_mem_nil)
    rw [hnone]
    exact sum_none _ (Journey.deeds_only (amount_log values) hown hlayers)
  · have hlayers : journey.stack ≠ [] := by
      obtain ⟨order, outer, inner, -, hstack, -⟩ := hone
      rw [hstack]
      simp
    rw [Journey.any_labels? hlayers]
    exact hone.sum hsorted.request hnames hvalues

/-- **A family tallies the pairs that its order lays out as it lays out the pair asked for.** -/
theorem tally_eq {history : History} (hfaithful : history.Faithful)
    (hsorted : ∀ journey ∈ history.journeys, family.Sorted journey)
    (hbound : history.journeys.length < 2 ^ 64) {store after : Store}
    (hzero : ∀ values, family.tally store values = 0)
    (hposted : store.Posted history.effects after) {order : LabelOrder}
    (hnames : order.names = family.names) (code method : String) :
    family.tally after (order.values code method)
      = history.labels.countP fun pair =>
          order.values pair.1 pair.2 = order.values code method := by
  have hvalues : family.names.length = (order.values code method).length := by
    rw [LabelOrder.length_values, hnames]
  have hstart : family.tally store (order.values code method) = 0 := hzero _
  generalize order.values code method = values at hvalues hstart ⊢
  have hsum : (history.effects.map (family.amount values)).sum
      = history.labels.countP fun pair => order.values pair.1 pair.2 = values := by
    have hjourneys : history.labels.countP (fun pair => order.values pair.1 pair.2 = values)
        = history.journeys.countP fun journey =>
            journey.labels?.any fun pair => order.values pair.1 pair.2 = values := by
      rw [History.labels, List.countP_filterMap]
      refine List.countP_congr fun journey _ => ?_
      cases journey.labels? <;> simp
    rw [hfaithful.sum, hjourneys, ← sum_countP]
    refine congrArg List.sum (List.map_congr_left fun journey hmem => ?_)
    exact (hsorted journey hmem).sum hnames hvalues
  rw [← hsum]
  cases family with
  | counters family =>
      -- The word has not wrapped around: no request adds more than one to it.
      have hless : (history.effects.map (Effect.counts (family.key values))).sum < 2 ^ 64 := by
        refine Nat.lt_of_le_of_lt (hsum.trans_le ?_) hbound
        exact Nat.le_trans List.countP_le_length (List.length_filterMap_le _ _)
      have hword : store.counted (family.key values) = 0 := UInt64.toNat_inj.mp hstart
      rw [tally, hposted.counted, hword, UInt64.zero_add]
      exact UInt64.toNat_ofNat_of_lt' hless
  | durations family =>
      have hnumber : store.observed (family.key values) = 0 := hstart
      rw [tally, hposted.observed, hnumber, Nat.zero_add]
      rfl

end Family

end Telemetry
