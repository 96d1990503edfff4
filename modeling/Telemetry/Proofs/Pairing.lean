/-
A gauge is lowered as often as it was raised, but for the requests in flight.

The gauge is any sink here, one that the store keeps or one that only shows what it is
told, and what is counted are the raises and lowers themselves.  A call raises the gauge
once for each layer over it, before the transport is handed the request.  The stage that
such a layer keeps lowers it in the first look that shows a response, also if an earlier
look has shown a failure, and at no other time.  Nothing else moves the gauge: not a look
that shows no response, not a drop, not an event, not the question for readiness.

So after any steps the raises exceed the lowers by the layers over the gauge that requests
without a response have gone through, whether or not their callers still wait.
-/
import Mathlib.Algebra.Order.BigOperators.Group.List
import Mathlib.Algebra.Order.Group.Nat
import Telemetry.Proofs.Chronology
import Telemetry.Proofs.Contribution
import Telemetry.Proofs.Rounds

namespace Telemetry

open scoped List

/-- Whether an effect neither raises nor lowers a gauge sink. -/
def Effect.Still (sink : GaugeSink) (effect : Effect) : Prop :=
  effect ≠ .raise sink ∧ effect ≠ .lower sink

/-- How often the requests that no look has shown a response to went through a layer over
the gauge sink. -/
def History.held (history : History) (sink : GaugeSink) : Nat :=
  ((history.journeys.filter fun journey => !journey.answered).map fun journey =>
    journey.stack.count (.inFlight sink)).sum

/-- Whether a caller may still look at the request under an identifier. -/
def Traffic.awaits (traffic : Traffic) (id : String) : Bool :=
  ((traffic.exchanges.get? id).bind Exchange.stages).isSome

/-- The same for the requests that callers may still look at, and no look at which has
shown any result. -/
def History.awaited (history : History) (sink : GaugeSink) : Nat :=
  ((history.journeys.filter fun journey =>
      history.traffic.awaits journey.id && journey.settled?.isNone).map fun journey =>
    journey.stack.count (.inFlight sink)).sum

/-- How the next step moves a gauge sink, and what is known of a request behind it. -/
structure History.Moves (history : History) (sink : GaugeSink) : Prop where
  /-- A call raises the gauges of its layers, and only then is the transport handed the
  request, during which the gauge is not moved. -/
  call : ∀ {id : String} {place : Nat} {service : Service} {request : Request}
    {moments : List Moment}, history.traffic.services[place]? = some service →
      (history.traffic.step (.call id place request moments)).effects
        = (service.stack.filterMap Layer.gauge?).map Effect.raise
          ++ (service.stack.reached history.traffic.now request).heard
            (Moment.timeline history.traffic.now moments) ∧
      (service.stack.filterMap Layer.gauge?).count sink = service.stack.count (.inFlight sink) ∧
      (∀ effect ∈ (service.stack.reached history.traffic.now request).heard
        (Moment.timeline history.traffic.now moments), effect.Still sink) ∧
      ∃ journey, (history.next (.call id place request moments)).current? id = some journey ∧
        journey.stack = service.stack ∧ journey.sights = []
  /-- A look goes through the layers, and one over the gauge lowers it if this is the first
  look to show a response. -/
  look : ∀ {id : String} {journey : Journey} {seen : Http.Progress},
    history.current? id = some journey →
    (history.traffic.step (.look id)).reply = .progress seen →
      (history.traffic.step (.look id)).effects
        = journey.stack.reverse.flatMap (journey.round (history.traffic.now, seen)).share ∧
      (∀ layer ∈ journey.stack,
        if layer = .inFlight sink then
          (journey.round (history.traffic.now, seen)).share layer
            = if Sight.isAnswer (history.traffic.now, seen) && !journey.answered then
                [.lower sink] else []
        else ∀ effect ∈ (journey.round (history.traffic.now, seen)).share layer,
          effect.Still sink) ∧
      (history.next (.look id)).current? id = some (journey.see (history.traffic.now, seen))
  /-- No other step moves the gauge. -/
  otherwise : ∀ {step : Traffic.Step},
    (∀ id place request moments, step ≠ .call id place request moments) →
    (∀ id seen, step = .look id → (history.traffic.step step).reply ≠ .progress seen) →
      ∀ effect ∈ (history.traffic.step step).effects, effect.Still sink

/-! ### Listeners and recorders leave gauges alone -/

theorem Leaf.only_still (sink : GaugeSink) (leaf : Leaf) : leaf.Only (Effect.Still sink) :=
  leaf.only_of (fun _ _ => ⟨nofun, nofun⟩) (fun _ _ _ => ⟨nofun, nofun⟩)
    fun _ _ _ => ⟨nofun, nofun⟩

theorem Layer.only_still {sink : GaugeSink} {layer : Layer} (hother : layer ≠ .inFlight sink) :
    layer.Only (Effect.Still sink) := by
  cases layer with
  | inFlight other =>
      have hne : other ≠ sink := fun h => hother (by rw [h])
      exact ⟨⟨fun h => hne (Effect.raise.inj h), nofun⟩, ⟨nofun, fun h => hne (Effect.lower.inj h)⟩⟩
  | record recorder order => intro code method elapsed; cases recorder <;> exact ⟨nofun, nofun⟩
  | trace hooks => exact Leaf.only_still sink (.timer hooks .start)

theorem Effect.still_log (sink : GaugeSink) (record : LogRecord) :
    (Effect.log record).Still sink := ⟨nofun, nofun⟩

theorem count_still {sink : GaugeSink} {effects : List Effect}
    (hstill : ∀ effect ∈ effects, effect.Still sink) :
    effects.count (.raise sink) = 0 ∧ effects.count (.lower sink) = 0 :=
  ⟨List.count_eq_zero.mpr fun hmem => (hstill _ hmem).1 rfl,
    List.count_eq_zero.mpr fun hmem => (hstill _ hmem).2 rfl⟩

theorem Request.heard_still (request : Request) (sink : GaugeSink)
    (reported : List (Instant × Event)) :
    ∀ effect ∈ request.heard reported, effect.Still sink := by
  intro effect hmem
  obtain ⟨one, -, hone⟩ := List.mem_flatMap.mp hmem
  obtain ⟨leaf, -, heard⟩ := List.mem_flatMap.mp hone
  exact (leaf.only_still sink).heard (Effect.still_log sink) _ _ effect heard

/-! ### A layer over the gauge -/

namespace Journey

variable (journey : Journey) (sink : GaugeSink)

/-- A layer over the gauge lowers it in the first look that shows a response. -/
theorem round_inFlight (sight : Sight) :
    (journey.round sight).share (.inFlight sink)
      = if sight.isAnswer && !journey.answered then [.lower sink] else [] := by
  have hstage : (Stage.gauge (some sink)).afterEach journey.sights
      = .gauge (if journey.answered then none else some sink) :=
    Stage.afterEach_gauge journey.sights sink
  obtain ⟨now, seen⟩ := sight
  simp only [round, Layer.onSight, Layer.stages, List.map_cons, List.map_nil, List.flatMap_cons,
    List.flatMap_nil, List.append_nil, hstage]
  cases journey.answered <;> cases seen <;> rfl

theorem round_still {layer : Layer} (hother : layer ≠ .inFlight sink) (sight : Sight) :
    ∀ effect ∈ (journey.round sight).share layer, effect.Still sink :=
  (Layer.only_still hother).onSight (Effect.still_log sink) journey sight

/-! ### What a request does to the gauge -/

theorem count_share (layer : Layer) :
    let share := layer.share journey.start journey.method journey.sights
    share.count (.raise sink) = (if layer = .inFlight sink then 1 else 0) ∧
      share.count (.lower sink)
        = if layer = .inFlight sink then (if journey.answered then 1 else 0) else 0 := by
  intro share
  by_cases hsame : layer = .inFlight sink
  · have hshare : share = .raise sink :: if journey.answered then [.lower sink] else [] := by
      rw [← journey.share_inFlight sink, ← hsame]
    rw [hshare, if_pos hsame, if_pos hsame]
    cases journey.answered <;> simp
  · rw [if_neg hsame, if_neg hsame]
    exact count_still ((Layer.only_still hsame).share (Effect.still_log sink) journey)

/-- A request raises the gauge once for each of its layers over it, and lowers it as often
if some look has shown a response. -/
theorem count_deeds :
    journey.deeds.count (.raise sink) = journey.stack.count (.inFlight sink) ∧
      journey.deeds.count (.lower sink)
        = if journey.answered then journey.stack.count (.inFlight sink) else 0 := by
  obtain ⟨htoldRaise, htoldLower⟩ :=
    count_still (journey.reached.heard_still sink journey.reports)
  rw [deeds, told, List.count_append, List.count_append, htoldRaise, htoldLower, recorded,
    List.count_flatMap, List.count_flatMap, Nat.add_zero, Nat.add_zero]
  have hlayers := journey.count_share sink
  induction journey.stack with
  | nil => simp
  | cons layer inner ih =>
      obtain ⟨hraise, hlower⟩ := hlayers layer
      simp only [List.map_cons, List.sum_cons, Function.comp_apply, List.count_cons, beq_iff_eq,
        hraise, hlower, ih]
      by_cases hsame : layer = .inFlight sink
      · cases journey.answered <;> simp [hsame, Nat.add_comm]
      · cases journey.answered <;> simp [hsame]

end Journey

/-! ### What a history does to the gauge -/

theorem Layer.count_gauges (stack : Stack) (sink : GaugeSink) :
    (stack.filterMap gauge?).count sink = stack.count (.inFlight sink) := by
  induction stack with
  | nil => rfl
  | cons layer inner ih =>
      rw [List.filterMap_cons, List.count_cons, ← ih]
      cases layer with
      | inFlight other =>
          by_cases hsame : other = sink
          · simp [gauge?, hsame]
          · simp [gauge?, hsame]
      | record recorder order => simp [gauge?]
      | trace hooks => simp [gauge?]

namespace History

variable {history : History}

theorem Faithful.moves (hfaithful : history.Faithful) (sink : GaugeSink) :
    history.Moves sink := by
  refine ⟨?_, ?_, ?_⟩
  · intro id place service request moments hservice
    refine ⟨?_, Layer.count_gauges _ _, Request.heard_still _ _ _,
      _, current?_call hservice request moments, rfl, rfl⟩
    rw [Traffic.step_call hservice, ← Layer.flatMap_opening]
    rfl
  · intro id journey seen hcurrent hreply
    refine ⟨hfaithful.look_effects hcurrent hreply, ?_, current?_look hcurrent hreply⟩
    intro layer _
    by_cases hsame : layer = .inFlight sink
    · rw [if_pos hsame, hsame]
      exact journey.round_inFlight sink _
    · rw [if_neg hsame]
      exact journey.round_still sink hsame _
  · intro step hcall hlook
    have hnone : (history.traffic.step step).effects = [] →
        ∀ effect ∈ (history.traffic.step step).effects, effect.Still sink := by
      intro h effect hmem
      rw [h] at hmem
      exact absurd hmem (List.not_mem_nil)
    cases hid : step.id? with
    | none => exact hnone (Traffic.step_free history.traffic hid).1
    | some id =>
        obtain ⟨place, request, moments, rfl⟩ | ⟨result, rfl⟩ | rfl | rfl | ⟨event, rfl⟩ :=
          Traffic.Step.about hid
        · exact absurd rfl (hcall id place request moments)
        · cases hexchange : history.traffic.exchanges.get? id with
          | none => exact hnone (by rw [Traffic.step_settle_gone hexchange]; rfl)
          | some exchange => exact hnone (by rw [Traffic.step_settle hexchange]; rfl)
        · cases hstages : (history.traffic.exchanges.get? id).bind Exchange.stages with
          | none => exact hnone (by rw [Traffic.step_look_gone hstages]; rfl)
          | some stages =>
              obtain ⟨exchange, hexchange, hsome⟩ := Option.bind_eq_some_iff.mp hstages
              exact absurd (by rw [Traffic.step_look hexchange hsome])
                (hlook id exchange.result rfl)
        · cases hexchange : history.traffic.exchanges.get? id with
          | none => exact hnone (by rw [Traffic.step_drop_gone hexchange]; rfl)
          | some exchange => exact hnone (by rw [Traffic.step_drop hexchange]; rfl)
        · cases hexchange : history.traffic.exchanges.get? id with
          | none => exact hnone (by rw [Traffic.step_report_gone hexchange]; rfl)
          | some exchange =>
              rw [Traffic.step_report hexchange event]
              intro effect hmem
              obtain ⟨leaf, -, heard⟩ := List.mem_flatMap.mp hmem
              exact (leaf.only_still sink).heard (Effect.still_log sink) _ _ effect heard

theorem Faithful.count_raise (hfaithful : history.Faithful) (sink : GaugeSink) :
    history.effects.count (.raise sink)
      = history.effects.count (.lower sink) + history.held sink := by
  rw [hfaithful.accounted.count_eq, hfaithful.accounted.count_eq, List.count_flatMap,
    List.count_flatMap, held]
  clear hfaithful
  induction history.journeys with
  | nil => rfl
  | cons journey earlier ih =>
      obtain ⟨hraise, hlower⟩ := journey.count_deeds sink
      rw [List.map_cons, List.map_cons, List.sum_cons, List.sum_cons, ih, Function.comp_apply,
        Function.comp_apply, hraise, hlower, List.filter_cons]
      cases journey.answered with
      | true => simp; omega
      | false => simp; omega

/-- A request that no look has shown a result to has none shown a response to either. -/
theorem awaited_le_held (history : History) (sink : GaugeSink) :
    history.awaited sink ≤ history.held sink := by
  have hwaiting : ∀ journey : Journey,
      (history.traffic.awaits journey.id && journey.settled?.isNone) = true →
        (!journey.answered) = true := by
    intro journey h
    rw [Bool.and_eq_true, Option.isNone_iff_eq_none] at h
    rw [Bool.not_eq_true', Journey.answered, List.any_eq_false]
    intro sight hsight hanswer
    have hpending := List.find?_eq_none.mp h.2 sight hsight
    obtain ⟨now, seen⟩ := sight
    cases seen with
    | pending => cases hanswer
    | failed error => cases hanswer
    | answered response => exact hpending rfl
  exact ((List.monotone_filter_right history.journeys hwaiting).map _).sum_le_sum
    fun _ _ => Nat.zero_le _

end History

/--
**A gauge is lowered as often as it was raised, but for the requests in flight.**

Whatever steps idle traffic has taken, the next one moves a gauge sink as `Moves` says.
The raises so far exceed the lowers by as much as requests without a response hold; that
is at least what the requests hold whose callers still wait for any result.
-/
theorem History.raises_exceed_lowers {traffic : Traffic} (hidle : traffic.exchanges = .empty)
    (steps : List Traffic.Step) (sink : GaugeSink) :
    let here := (History.start traffic).run steps
    here.Moves sink ∧
      here.effects.count (.raise sink) = here.effects.count (.lower sink) + here.held sink ∧
      here.awaited sink ≤ here.held sink := by
  intro here
  have hfaithful : here.Faithful := History.Faithful.run hidle steps
  exact ⟨hfaithful.moves sink, hfaithful.count_raise sink, here.awaited_le_held sink⟩

/-- Two layers over one gauge, a request that fails before it is answered, and one that its
caller drops. -/
theorem History.raises_exceed_lowers_nested :
    let sink : GaugeSink := .probe "busy"
    let traffic : Traffic :=
      ⟨.start, .ready, [⟨[.inFlight sink, .inFlight sink], .scripted, 0⟩], .empty⟩
    let request : Request := ⟨⟨"GET", by decide⟩, .ofString "/", .none, "", none⟩
    let response : Http.Response := ⟨⟨200, by decide, by decide⟩, .none, ""⟩
    let steps : List Traffic.Step :=
      [.call "a" 0 request [], .call "b" 0 request [], .settle "a" (.failed "reset"), .look "a",
       .settle "a" (.answered response), .look "a", .look "a", .drop "b"]
    let here := (History.start traffic).run steps
    here.effects.count (.lower sink) = 2 ∧ here.effects.count (.raise sink) = 4 := by
  intro sink traffic request response steps here
  have hidle : traffic.exchanges = .empty := rfl
  have hlower : here.effects.count (.lower sink) = 2 := by decide
  have hheld : here.held sink = 2 := by decide
  refine ⟨hlower, ?_⟩
  rw [(History.raises_exceed_lowers hidle steps sink).2.1, hlower, hheld]

end Telemetry
