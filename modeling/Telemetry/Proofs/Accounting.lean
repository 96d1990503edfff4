/-
The accounts of a bundle.

A bundle keeps three accounts of the requests that go through it: a gauge of those in
flight, a counter of those that were answered and a histogram of the time that they took.
Each is kept by a layer of its own, and each layer by a stage of its own, which is given
up at another point than the others'.  Still the accounts agree after every step.  That
is because all three are read off the journeys: a request is counted, and its time taken,
if the first result that a look showed was a response, and it is in flight until some
look has shown one.

Nobody else may write to the three metrics; that is what `Aside` says of an effect.  The
bundle's own hooks need not be asked.  They observe under the event label, which is no
label of a response, so that even in the family of the durations their series are others.
-/
import Mathlib.Data.List.Nodup
import Telemetry.Proofs.Dispatch
import Telemetry.Proofs.Families

namespace Telemetry

/-! ### Who may write to the metrics -/

/-- Whether an effect leaves the bundle's gauge, counters and durations alone. -/
def Effect.Aside (bundle : Bundle) : Effect → Prop
  | raise (.gauge gauge) | lower (.gauge gauge) => gauge ≠ bundle.inFlight
  | count (.family family) _ => family.id ≠ bundle.requests.id
  | observe (.family family) _ _ => family.id ≠ bundle.duration.id
  | _ => True

namespace Bundle

/-- The bundle around layers that leave its metrics alone, or just such layers. -/
def Around (bundle : Bundle) (stack : Stack) : Prop :=
  ∃ outer inner, stack = outer ++ inner ∧ (outer = bundle.layers ∨ outer = []) ∧
    ∀ layer ∈ inner, layer.Only (Effect.Aside bundle)

/-- Idle traffic whose services have the bundle around layers that leave its metrics
alone, or have just such layers. -/
structure Carries (bundle : Bundle) (traffic : Traffic) : Prop where
  idle : traffic.exchanges = .empty
  services : ∀ service ∈ traffic.services, bundle.Around service.stack

/-- Steps that hand in requests whose own listeners leave the bundle's metrics alone. -/
def SparedBy (bundle : Bundle) (steps : List Traffic.Step) : Prop :=
  ∀ step ∈ steps, ∀ request ∈ step.request?, ∀ leaf ∈ request.leaves,
    leaf.Only (Effect.Aside bundle)

/-- A store in which the bundle's metrics are at zero. -/
structure Untouched (bundle : Bundle) (store : Store) : Prop where
  inFlight : store.gauge bundle.inFlight = 0
  requests : ∀ values, store.counted (bundle.requests.key values) = 0
  duration : ∀ values, store.observed (bundle.duration.key values) = 0

end Bundle

/-! ### What the accounts are about -/

namespace Bundle

/-- Whether a request went through the bundle. -/
def carried (bundle : Bundle) (journey : Journey) : Bool :=
  bundle.layers.isPrefixOf journey.stack

/-- The number of requests through the bundle that were answered with these values. -/
def completed (bundle : Bundle) (history : History) (order : LabelOrder)
    (values : List String) : Nat :=
  history.journeys.countP fun journey =>
    bundle.carried journey && journey.completes order values

/-- The number of requests through the bundle that no look has shown a response to. -/
def waiting (bundle : Bundle) (history : History) : Nat :=
  history.journeys.countP fun journey => bundle.carried journey && !journey.answered

/-- The accounts that a store shows are those of a history. -/
structure Accounts (bundle : Bundle) (history : History) (store : Store) : Prop where
  requests : ∀ values, bundle.requests.names.length = values.length →
    store.counted (bundle.requests.key values)
      = UInt64.ofNat (bundle.completed history bundle.requestsOrder values)
  duration : ∀ values, bundle.duration.names.length = values.length →
    store.observed (bundle.duration.key values)
      = bundle.completed history bundle.durationOrder values
  inFlight : store.gauge bundle.inFlight = Int64.ofNat (bundle.waiting history)

end Bundle

/-! ### Effects that leave the metrics alone leave their families alone -/

namespace Effect.Aside

variable {bundle : Bundle} {effect : Effect}

theorem spares_requests (h : effect.Aside bundle) : effect.Spares (.counters bundle.requests) := by
  cases effect with
  | count sink given =>
      cases sink with
      | family family => exact h
      | probe name labels => trivial
  | raise | lower | observe | note | hear | log => trivial

theorem spares_duration (h : effect.Aside bundle) :
    effect.Spares (.durations bundle.duration) := by
  cases effect with
  | observe sink reading given =>
      cases sink with
      | family family => exact h
      | probe name labels => trivial
  | raise | lower | count | note | hear | log => trivial

end Effect.Aside

/-- No listener counts in a counter. -/
theorem Leaf.only_uncounted (key : SeriesKey) (leaf : Leaf) :
    leaf.Only fun effect => effect.counts key = 0 := by
  refine leaf.only_of (fun _ _ => rfl) (fun _ _ _ => rfl) ?_
  intro sink reading values
  cases sink <;> rfl

/-- The hooks of a bundle observe no durations. -/
theorem Bundle.Wired.hooks_only {bundle : Bundle} (hwired : bundle.Wired) (values : List String) :
    bundle.hooks.Only fun effect => effect.observes (bundle.duration.key values) = 0 := by
  obtain ⟨events, hevents, hhooks⟩ := hwired.hooks
  rw [hhooks]
  intro phase hook hhook reading
  rw [HookTable.hook?_observing] at hhook
  cases hhook
  have hkey : ¬ events.key [phase.name] = bundle.duration.key values := by
    intro heq
    have hlabels : [(eventLabel, phase.name)] = bundle.duration.names.zip values := by
      have h := congrArg SeriesKey.labels heq
      rwa [HistogramFamily.key, hevents] at h
    have hmem : (eventLabel, phase.name) ∈ bundle.duration.names.zip values := by
      rw [← hlabels]
      exact List.mem_singleton_self _
    have hname : eventLabel ∈ bundle.durationOrder.names := by
      rw [hwired.duration]
      exact (List.of_mem_zip hmem).1
    exact bundle.durationOrder.event_notMem_names hname
  exact if_neg hkey

/-! ### What one request is worth to an account -/

namespace Bundle

variable {bundle : Bundle}

/-- The layers of a bundle do not leave its metrics alone. -/
theorem not_carried {journey : Journey}
    (haside : ∀ layer ∈ journey.stack, layer.Only (Effect.Aside bundle)) :
    bundle.carried journey = false := by
  by_contra hcarried
  have hprefix : bundle.layers <+: journey.stack :=
    List.isPrefixOf_iff_prefix.mp (Bool.not_eq_false _ ▸ hcarried)
  have hgauge : Layer.inFlight (.gauge bundle.inFlight) ∈ journey.stack :=
    hprefix.subset (by simp [layers])
  exact (haside _ hgauge).1 rfl

theorem carried_append {journey : Journey} {inner : Stack}
    (hstack : journey.stack = bundle.layers ++ inner) : bundle.carried journey = true := by
  rw [carried, hstack]
  exact List.isPrefixOf_iff_prefix.mpr (List.prefix_append _ _)

/-- The journeys that there are in traffic that the bundle carries. -/
structure Sorted (bundle : Bundle) (journey : Journey) : Prop where
  stack : bundle.Around journey.stack
  request : ∀ leaf ∈ journey.request.leaves, leaf.Only (Effect.Aside bundle)

/-- A request is worth to an account what the bundle's own layers record of it, if it went
through the bundle, and else nothing. -/
theorem Sorted.sum {journey : Journey} (hsorted : bundle.Sorted journey)
    {amount : Effect → Nat} (hlog : ∀ record, amount (.log record) = 0)
    (haside : ∀ effect, effect.Aside bundle → amount effect = 0)
    (hhooks : bundle.hooks.Only fun effect => amount effect = 0) :
    (journey.deeds.map amount).sum
      = if bundle.carried journey then
          (bundle.layers.map fun layer =>
            ((layer.share journey.start journey.method journey.sights).map amount).sum).sum
        else 0 := by
  obtain ⟨outer, inner, hstack, houter, hinner⟩ := hsorted.stack
  have hnone : ∀ layer ∈ inner, layer.Only fun effect => amount effect = 0 := by
    intro layer hlayer
    exact (hinner layer hlayer).mono haside
  have hown : ∀ leaf ∈ journey.request.leaves, leaf.Only fun effect => amount effect = 0 := by
    intro leaf hleaf
    exact (hsorted.request leaf hleaf).mono haside
  have htimers : ∀ layer ∈ journey.stack, ∀ leaf ∈ layer.timers journey.start,
      leaf.Only fun effect => amount effect = 0 := by
    intro layer hlayer leaf hleaf
    rw [hstack] at hlayer
    rcases List.mem_append.mp hlayer with hfront | hback
    · rcases houter with rfl | rfl
      · simp only [layers, List.mem_cons, List.not_mem_nil, or_false] at hfront
        rcases hfront with rfl | rfl | rfl | rfl
        · exact absurd hleaf (List.not_mem_nil)
        · exact absurd hleaf (List.not_mem_nil)
        · rw [Layer.timers, List.mem_singleton] at hleaf
          rw [hleaf]
          exact hhooks
        · exact absurd hleaf (List.not_mem_nil)
      · exact absurd hfront (List.not_mem_nil)
    · exact (hnone layer hback).timers journey.start leaf hleaf
  have hinside := journey.sum_shares_none hlog hnone
  rw [Journey.sum_deeds hlog hown htimers, hstack, List.map_append, List.sum_append, hinside,
    Nat.add_zero]
  rcases houter with rfl | rfl
  · rw [if_pos (carried_append hstack)]
  · rw [if_neg (by rw [not_carried (by rw [hstack]; exact hinner)]; exact Bool.false_ne_true)]
    rfl

variable {journey : Journey}

theorem Wired.counts (hwired : bundle.Wired) (hsorted : bundle.Sorted journey)
    {values : List String} (hvalues : bundle.requests.names.length = values.length) :
    (journey.deeds.map (Effect.counts (bundle.requests.key values))).sum
      = if bundle.carried journey && journey.completes bundle.requestsOrder values then 1
        else 0 := by
  have hgauge : (Layer.inFlight (.gauge bundle.inFlight)).Only fun effect =>
      effect.counts (bundle.requests.key values) = 0 := ⟨rfl, rfl⟩
  have hrequests :
      (((Layer.record (.count (.family bundle.requests)) bundle.requestsOrder).share journey.start
        journey.method journey.sights).map (Effect.counts (bundle.requests.key values))).sum
        = if journey.completes bundle.requestsOrder values then 1 else 0 :=
    (Family.counters bundle.requests).sum_share hwired.requests hvalues journey
  have hduration : (Layer.record (.observe (.family bundle.duration)) bundle.durationOrder).Only
      fun effect => effect.counts (bundle.requests.key values) = 0 := fun _ _ _ => rfl
  have hhooks : bundle.hooks.Only fun effect => effect.counts (bundle.requests.key values) = 0 :=
    Leaf.only_uncounted _ (.timer bundle.hooks journey.start)
  have haside : ∀ effect : Effect, effect.Aside bundle →
      effect.counts (bundle.requests.key values) = 0 :=
    fun _ h => Family.amount_spares h.spares_requests values
  rw [hsorted.sum (fun _ => rfl) haside hhooks]
  simp only [layers, List.map_cons, List.map_nil, List.sum_cons, List.sum_nil,
    sum_none _ (hgauge.share (fun _ => rfl) journey), hrequests, Journey.share_trace,
    sum_none _ (hduration.share (fun _ => rfl) journey), Nat.zero_add, Nat.add_zero]
  cases bundle.carried journey <;> rfl

theorem Wired.observes (hwired : bundle.Wired) (hsorted : bundle.Sorted journey)
    {values : List String} (hvalues : bundle.duration.names.length = values.length) :
    (journey.deeds.map (Effect.observes (bundle.duration.key values))).sum
      = if bundle.carried journey && journey.completes bundle.durationOrder values then 1
        else 0 := by
  have hgauge : (Layer.inFlight (.gauge bundle.inFlight)).Only fun effect =>
      effect.observes (bundle.duration.key values) = 0 := ⟨rfl, rfl⟩
  have hrequests : (Layer.record (.count (.family bundle.requests)) bundle.requestsOrder).Only
      fun effect => effect.observes (bundle.duration.key values) = 0 := fun _ _ _ => rfl
  have hduration :
      (((Layer.record (.observe (.family bundle.duration)) bundle.durationOrder).share
        journey.start journey.method journey.sights).map
        (Effect.observes (bundle.duration.key values))).sum
        = if journey.completes bundle.durationOrder values then 1 else 0 :=
    (Family.durations bundle.duration).sum_share hwired.duration hvalues journey
  have haside : ∀ effect : Effect, effect.Aside bundle →
      effect.observes (bundle.duration.key values) = 0 :=
    fun _ h => Family.amount_spares h.spares_duration values
  rw [hsorted.sum (fun _ => rfl) haside (hwired.hooks_only values)]
  simp only [layers, List.map_cons, List.map_nil, List.sum_cons, List.sum_nil,
    sum_none _ (hgauge.share (fun _ => rfl) journey),
    sum_none _ (hrequests.share (fun _ => rfl) journey), Journey.share_trace, hduration,
    Nat.zero_add, Nat.add_zero]
  cases bundle.carried journey <;> rfl

/-- A request through the bundle raises its gauge once. -/
theorem Sorted.count_gauge (hsorted : bundle.Sorted journey) :
    journey.stack.count (.inFlight (.gauge bundle.inFlight))
      = if bundle.carried journey then 1 else 0 := by
  obtain ⟨outer, inner, hstack, houter, hinner⟩ := hsorted.stack
  have hinside : inner.count (.inFlight (.gauge bundle.inFlight)) = 0 := by
    rw [List.count_eq_zero]
    intro hmem
    exact (hinner _ hmem).1 rfl
  rw [hstack, List.count_append, hinside, Nat.add_zero]
  rcases houter with rfl | rfl
  · rw [carried_append hstack, if_pos rfl]
    simp [layers]
  · rw [not_carried (by rw [hstack]; exact hinner)]
    rfl

end Bundle

/-! ### The accounts of a history -/

namespace Bundle

variable {bundle : Bundle} {history : History}

theorem waiting_eq (hsorted : ∀ journey ∈ history.journeys, bundle.Sorted journey) :
    history.inFlight bundle.inFlight = bundle.waiting history := by
  have hcount : (history.journeys.filter fun journey => !journey.answered).map (fun journey =>
      journey.stack.count (.inFlight (.gauge bundle.inFlight)))
      = (history.journeys.filter fun journey => !journey.answered).map fun journey =>
          if bundle.carried journey then 1 else 0 := by
    refine List.map_congr_left fun journey hmem => ?_
    exact (hsorted journey (List.mem_filter.mp hmem).1).count_gauge
  rw [History.inFlight, hcount, sum_countP, List.countP_filter, waiting]

/-- The store shows the accounts of a faithful history. -/
theorem Wired.accounts (hwired : bundle.Wired) (hfaithful : history.Faithful)
    (hsorted : ∀ journey ∈ history.journeys, bundle.Sorted journey) {store after : Store}
    (huntouched : bundle.Untouched store) (hposted : store.Posted history.effects after) :
    bundle.Accounts history after := by
  refine ⟨?_, ?_, ?_⟩
  · intro values hvalues
    have hsum : (history.effects.map (Effect.counts (bundle.requests.key values))).sum
        = bundle.completed history bundle.requestsOrder values := by
      rw [hfaithful.sum, completed, ← sum_countP]
      refine congrArg List.sum (List.map_congr_left fun journey hmem => ?_)
      exact hwired.counts (hsorted journey hmem) hvalues
    rw [hposted.counted, huntouched.requests, hsum, UInt64.zero_add]
  · intro values hvalues
    have hsum : (history.effects.map (Effect.observes (bundle.duration.key values))).sum
        = bundle.completed history bundle.durationOrder values := by
      rw [hfaithful.sum, completed, ← sum_countP]
      refine congrArg List.sum (List.map_congr_left fun journey hmem => ?_)
      exact hwired.observes (hsorted journey hmem) hvalues
    rw [hposted.observed, huntouched.duration, hsum, Nat.zero_add]
  · rw [hposted.gauge, huntouched.inFlight, hfaithful.gauge, waiting_eq hsorted, Int64.zero_add]
    rfl

/-! ### The bundle is never refused -/

/-- Whether the layers beside the bundle, and the request's own listeners, give every
family as many label values as it has names. -/
structure Fitting (bundle : Bundle) (journey : Journey) : Prop where
  layers : ∀ layer ∈ journey.stack, layer ∉ bundle.layers → layer.Only Effect.Fits
  request : ∀ leaf ∈ journey.request.leaves, leaf.Only Effect.Fits

theorem Wired.layers_fit (hwired : bundle.Wired) :
    ∀ layer ∈ bundle.layers, layer.Only Effect.Fits := by
  intro layer hlayer
  simp only [layers, List.mem_cons, List.not_mem_nil, or_false] at hlayer
  rcases hlayer with rfl | rfl | rfl | rfl
  · exact ⟨trivial, trivial⟩
  · exact (Family.counters bundle.requests).record_fits hwired.requests
  · obtain ⟨events, hevents, hhooks⟩ := hwired.hooks
    rw [hhooks]
    intro phase hook hhook reading
    rw [HookTable.hook?_observing] at hhook
    cases hhook
    show events.names.length = 1
    rw [hevents]
    rfl
  · exact (Family.durations bundle.duration).record_fits hwired.duration

theorem Wired.accepted (hwired : bundle.Wired) (hfaithful : history.Faithful)
    (hfitting : ∀ journey ∈ history.journeys, bundle.Fitting journey) (store : Store) :
    ∃ after, store.applyAll history.effects = .ok after := by
  refine hfaithful.accepted ?_ (fun journey hjourney => (hfitting journey hjourney).request) store
  intro journey hjourney layer hlayer
  by_cases hown : layer ∈ bundle.layers
  · exact hwired.layers_fit layer hown
  · exact (hfitting journey hjourney).layers layer hlayer hown

end Bundle

/-! ### With a code and a method for each request, the codes of a method add up -/

theorem Http.Status.text_inj {status : Http.Status} {code : Nat} :
    status.text = toString code ↔ status.code = code := by
  refine ⟨fun h => ?_, fun h => by rw [← h]; rfl⟩
  have hdigits : Nat.toDigits 10 status.code = Nat.toDigits 10 code := by
    rw [← Nat.toList_repr, ← Nat.toList_repr]
    exact congrArg String.toList h
  rw [← Nat.ofDigitChars_ten_toDigits (n := status.code), hdigits, Nat.ofDigitChars_ten_toDigits]

/-- The numbers that a status can have. -/
def Http.Status.codes : List Nat := List.range' 100 900

theorem Http.Status.countP_codes (status : Http.Status) :
    codes.countP (fun code => status.text = toString code) = 1 := by
  have hmem : status.code ∈ codes := by
    rw [codes, List.mem_range'_1]
    have hlower := status.lower
    have hupper := status.upper
    omega
  have hcount : codes.countP (fun code => status.text = toString code)
      = codes.count status.code := by
    rw [List.count]
    refine List.countP_congr fun code _ => ?_
    simp only [Http.Status.text_inj, decide_eq_true_eq, beq_iff_eq]
    exact eq_comm
  rw [hcount]
  exact List.count_eq_one_of_mem (List.nodup_range') hmem

namespace Bundle

variable {bundle : Bundle}

theorem completed_byMethod (hrequests : bundle.requestsOrder.labels = [.code, .method])
    (hduration : bundle.durationOrder.labels = [.method]) (history : History) (method : String) :
    (Http.Status.codes.map fun code =>
      bundle.completed history bundle.requestsOrder [toString code, method]).sum
      = bundle.completed history bundle.durationOrder [method] := by
  -- One request is counted under one code, if it is counted at all.
  have hone : ∀ journey : Journey, (Http.Status.codes.map fun code =>
      if bundle.carried journey && journey.completes bundle.requestsOrder [toString code, method]
        then 1 else 0).sum
      = if bundle.carried journey && journey.completes bundle.durationOrder [method] then 1
        else 0 := by
    intro journey
    rw [sum_countP]
    cases bundle.carried journey with
    | false => simp
    | true =>
        unfold Journey.completes LabelOrder.values
        rw [hrequests, hduration]
        cases journey.settled? with
        | none => simp
        | some first =>
            obtain ⟨now, seen⟩ := first
            cases seen with
            | pending => simp
            | failed error => simp
            | answered response =>
                by_cases hmethod : journey.request.method.lowered = method
                · rw [if_pos (by simp [hmethod]), ← response.status.countP_codes]
                  refine List.countP_congr fun code _ => ?_
                  simp [hmethod]
                · simp [hmethod]
  unfold completed
  induction history.journeys with
  | nil => simp
  | cons journey earlier ih =>
      simp only [List.countP_cons]
      rw [List.sum_map_add, ih, hone]

/--
**The accounts of a bundle agree with what has happened, and with each other.**

Whatever steps are taken by traffic that the bundle carries, the store does not refuse
the effects on account of the bundle.  If it accepts them, then its counter and its
number of observations under some label values is the number of requests whose first
result was a response with these values, and its gauge the number of requests without a
response.  In a registered bundle the counters of a method add up, over all codes, to the
number of observations for that method.
-/
theorem Built.accounts_agree {bundle : Bundle} (hbuilt : bundle.Built) {traffic : Traffic}
    (hcarries : bundle.Carries traffic) {steps : List Traffic.Step}
    (hspared : bundle.SparedBy steps) {store : Store} (huntouched : bundle.Untouched store) :
    let here := (History.start traffic).run steps
    ((∀ journey ∈ here.journeys, bundle.Fitting journey) →
      ∃ after, store.applyAll here.effects = .ok after) ∧
    ∀ after, store.applyAll here.effects = .ok after →
      bundle.Accounts here after ∧
      ∀ config inventory, bundle = ((register config).run inventory).1 → ∀ method,
        (Http.Status.codes.map fun code =>
          after.counted (bundle.requests.key [toString code, method])).sum
          = UInt64.ofNat (after.observed (bundle.duration.key [method])) := by
  intro here
  have hwired : bundle.Wired := hbuilt.wired
  have hfaithful : here.Faithful := History.Faithful.run hcarries.idle steps
  have hsorted : ∀ journey ∈ here.journeys, bundle.Sorted journey := by
    intro journey hmem
    have hbare : bundle.Around [] :=
      ⟨[], [], rfl, .inr rfl, fun _ h => absurd h (List.not_mem_nil)⟩
    obtain ⟨hstack, hrequest⟩ :=
      History.journeys_within hbare hspared hcarries.services journey hmem
    exact ⟨hstack, hrequest⟩
  refine ⟨fun hfitting => hwired.accepted hfaithful hfitting store, ?_⟩
  intro after hok
  have haccounts : bundle.Accounts here after :=
    hwired.accounts hfaithful hsorted huntouched (Store.posted hok)
  refine ⟨haccounts, ?_⟩
  intro config inventory hregistered method
  have hrequests : bundle.requestsOrder.labels = [.code, .method] := by
    rw [hregistered]
    rfl
  have hduration : bundle.durationOrder.labels = [.method] := by
    rw [hregistered]
    rfl
  have hnames : bundle.requests.names.length = 2 ∧ bundle.duration.names.length = 1 := by
    rw [hregistered]
    exact ⟨rfl, rfl⟩
  have hcounted : Http.Status.codes.map (fun code =>
      after.counted (bundle.requests.key [toString code, method]))
      = Http.Status.codes.map fun code => UInt64.ofNat
          (bundle.completed here bundle.requestsOrder [toString code, method]) := by
    refine List.map_congr_left fun code _ => ?_
    exact haccounts.requests _ hnames.1
  rw [hcounted, haccounts.duration [method] hnames.2, ← Store.ofNat_sum,
    completed_byMethod hrequests hduration]

/-- Of two requests one is answered; the other stays in flight. -/
theorem Built.accounts_of_two :
    let bundle := ((Bundle.register ⟨[], []⟩).run .empty).1
    let traffic : Traffic := ⟨.start, .ready, [⟨bundle.layers, .scripted, 0⟩], .empty⟩
    let request : Request := ⟨⟨"GET", by decide⟩, .ofString "/", .none, "", none⟩
    let response : Http.Response := ⟨⟨200, by decide, by decide⟩, .none, ""⟩
    let steps : List Traffic.Step :=
      [.call "a" 0 request [.wait ⟨5⟩], .call "b" 0 request [], .settle "a" (.answered response),
       .look "a", .look "b"]
    ∃ after, Store.empty.applyAll ((History.start traffic).run steps).effects = .ok after ∧
      after.counted (bundle.requests.key ["200", "get"]) = 1 ∧
      after.observed (bundle.duration.key ["get"]) = 1 ∧
      after.gauge bundle.inFlight = 1 := by
  intro bundle traffic request response steps
  have hcarries : bundle.Carries traffic := by
    refine ⟨rfl, ?_⟩
    intro service hservice
    rw [List.mem_singleton.mp hservice]
    exact ⟨bundle.layers, [], rfl, .inl rfl, fun _ h => absurd h (List.not_mem_nil)⟩
  have hbare : ∀ step ∈ steps, ∀ handed ∈ step.request?, handed = request := by
    intro step hstep handed hhanded
    simp only [steps, List.mem_cons, List.not_mem_nil, or_false] at hstep
    rcases hstep with rfl | rfl | rfl | rfl | rfl <;> cases hhanded <;> rfl
  have hspared : bundle.SparedBy steps := by
    intro step hstep handed hhanded leaf hleaf
    rw [hbare step hstep handed hhanded] at hleaf
    exact absurd hleaf (List.not_mem_nil)
  have huntouched : bundle.Untouched .empty := ⟨rfl, fun _ => rfl, fun _ => rfl⟩
  have hown : ∀ service ∈ traffic.services, ∀ layer ∈ service.stack, layer ∈ bundle.layers := by
    intro service hservice
    rw [List.mem_singleton.mp hservice]
    exact fun _ h => h
  have hnil : ∀ layer ∈ ([] : Stack), layer ∈ bundle.layers :=
    fun _ h => absurd h (List.not_mem_nil)
  obtain ⟨hok, haccounts⟩ :=
    Built.accounts_agree (.registered ⟨[], []⟩ .empty) hcarries hspared huntouched
  obtain ⟨after, hafter⟩ := hok (by
    intro journey hjourney
    obtain ⟨hstack, hrequest⟩ :=
      History.journeys_within (S := fun stack => ∀ layer ∈ stack, layer ∈ bundle.layers)
        hnil hbare hown journey hjourney
    refine ⟨fun layer hlayer hnone => absurd (hstack layer hlayer) hnone, ?_⟩
    rw [hrequest]
    exact fun _ h => absurd h (List.not_mem_nil))
  obtain ⟨⟨hrequests, hduration, hgauge⟩, -⟩ := haccounts after hafter
  refine ⟨after, hafter, ?_, ?_, ?_⟩
  · rw [hrequests ["200", "get"] rfl]
    decide
  · rw [hduration ["get"] rfl]
    decide
  · rw [hgauge]
    decide

end Bundle

end Telemetry
