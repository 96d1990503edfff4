/-
The effects of a step, layer by layer.

Within a step, the layers that a request goes through act in rounds.  A call is a round
in which the request comes in, and then one for each event that the transport reports
meanwhile; a look is one round, and so is a report.  In a round the listeners that the
request brought along go first, and then each layer has its share: from the outside in,
except for a look, which goes from the inside out.

So the effects of a step are known once it is known which layers the request passes and
what each of them does in a round.  The latter is a function of the layer and of what an
onlooker knows of the request; the other layers have no part in it.
-/
import Telemetry.Proofs.History

namespace Telemetry

/-- What is done in one go, by a request's own listeners and by each layer. -/
structure Round where
  own : List Effect
  share : Layer → List Effect

/-- The effects of a round if these layers take part in it, in this order. -/
def Round.effects (passed : List Layer) (round : Round) : List Effect :=
  round.own ++ passed.flatMap round.share

/-! ### The rounds of each kind of step -/

/-- The round in which a request comes in. -/
def Round.opening : Round := ⟨[], Layer.opening⟩

/-- The round in which an event is reported of a request that was handed in at `start`. -/
def Request.round (request : Request) (start : Instant) (one : Instant × Event) : Round where
  own := request.leaves.flatMap (Leaf.heard one.2 one.1)
  share layer := (layer.timers start).flatMap (Leaf.heard one.2 one.1)

/-- The round of one more look at a request. -/
def Journey.round (journey : Journey) (sight : Sight) : Round where
  own := []
  share := Layer.onSight journey.start journey.method journey.sights sight

namespace History

/-- The rounds of the next step. -/
def rounds (history : History) (step : Traffic.Step) : List Round :=
  match step, (history.traffic.step step).reply with
  | .call _ _ request moments, .reached .. =>
    .opening :: (Moment.timeline history.traffic.now moments).map
      (request.round history.traffic.now)
  | .look id, .progress seen =>
    match history.current? id with
    | none => []
    | some journey => [journey.round (history.traffic.now, seen)]
  | .report id event, .flag _ =>
    match history.current? id with
    | none => []
    | some journey => [journey.request.round journey.start (history.traffic.now, event)]
  | _, _ => []

/-- The layers that the next step goes through, in the order in which it does so. -/
def passed (history : History) (step : Traffic.Step) : List Layer :=
  match step with
  | .call _ place _ _ =>
    match history.traffic.services[place]? with
    | none => []
    | some service => service.stack
  | .look id =>
    match history.current? id with
    | none => []
    | some journey => journey.stack.reverse
  | .report id _ =>
    match history.current? id with
    | none => []
    | some journey => journey.stack
  | _ => []

/-- A step that is about no request has no rounds and goes through no layers. -/
theorem rounds_free (history : History) {step : Traffic.Step} (hfree : step.id? = none) :
    history.rounds step = [] := by
  obtain ⟨d, rfl⟩ | ⟨readiness, rfl⟩ | ⟨place, rfl⟩ | ⟨place, rfl⟩ | ⟨place, rfl⟩ :=
    Traffic.Step.free hfree <;> rfl

theorem passed_free (history : History) {step : Traffic.Step} (hfree : step.id? = none) :
    history.passed step = [] := by
  obtain ⟨d, rfl⟩ | ⟨readiness, rfl⟩ | ⟨place, rfl⟩ | ⟨place, rfl⟩ | ⟨place, rfl⟩ :=
    Traffic.Step.free hfree <;> rfl

end History

/-! ### The effects of a step are those of its rounds -/

/-- An event reaches the listeners that a request brought along, and then the timers of
the layers, outermost first. -/
theorem Stack.heard_reached (stack : Stack) (request : Request) (start : Instant)
    (one : Instant × Event) :
    (stack.reached start request).leaves.flatMap (Leaf.heard one.2 one.1)
      = (request.round start one).effects stack := by
  rw [Stack.reached, Request.leaves_attachEach, List.flatMap_append, Stack.timers,
    List.flatMap_assoc]
  rfl

theorem Stack.reported (stack : Stack) (request : Request) (start : Instant)
    (reported : List (Instant × Event)) :
    (stack.reached start request).heard reported
      = (reported.map (request.round start)).flatMap (Round.effects stack) := by
  rw [Request.heard, List.flatMap_map]
  congr 1
  funext one
  exact stack.heard_reached request start one

/-- From the inside out, the stages of a request act just as its layers do. -/
theorem Journey.looked (journey : Journey) (sight : Sight) :
    journey.stages.reverse.flatMap (Stage.does sight.2 sight.1)
      = (journey.round sight).effects journey.stack.reverse := by
  have hone : ∀ layer : Layer, ((layer.stages journey.start journey.method).map
      (Stage.afterEach journey.sights)).reverse
        = (layer.stages journey.start journey.method).map (Stage.afterEach journey.sights) := by
    intro layer
    cases layer <;> rfl
  have hreverse : journey.stages.reverse
      = journey.stack.reverse.flatMap fun layer =>
          (layer.stages journey.start journey.method).map (Stage.afterEach journey.sights) := by
    rw [Journey.stages, Stack.stages, List.map_flatMap, List.reverse_flatMap]
    congr 1
    funext layer
    exact hone layer
  rw [hreverse, List.flatMap_assoc]
  rfl

namespace History

/-- **The effects of a step are those of its rounds**, in a history that is faithful. -/
theorem Faithful.step_effects {history : History} (hfaithful : history.Faithful)
    (step : Traffic.Step) :
    (history.traffic.step step).effects
      = (history.rounds step).flatMap (Round.effects (history.passed step)) := by
  have hnone : history.rounds step = [] → (history.traffic.step step).effects = [] →
      (history.traffic.step step).effects
        = (history.rounds step).flatMap (Round.effects (history.passed step)) := by
    intro hrounds heffects
    rw [hrounds, heffects, List.flatMap_nil]
  cases hid : step.id? with
  | none => exact hnone (history.rounds_free hid) (Traffic.step_free history.traffic hid).1
  | some id =>
      obtain ⟨place, request, moments, rfl⟩ | ⟨result, rfl⟩ | rfl | rfl | ⟨event, rfl⟩ :=
        Traffic.Step.about hid
      · cases hservice : history.traffic.services[place]? with
        | none =>
            have hstep := Traffic.step_call_noService hservice id request moments
            exact hnone (by simp only [rounds, hstep, Traffic.Stepped.quiet]) (by rw [hstep]; rfl)
        | some service =>
            have hstep := Traffic.step_call hservice id request moments
            have hopening : Round.opening.effects service.stack = service.stack.opening := rfl
            simp only [rounds, passed, hstep, hservice, List.flatMap_cons, hopening,
              Stack.reported]
      · cases hexchange : history.traffic.exchanges.get? id with
        | none => rw [Traffic.step_settle_gone hexchange]; rfl
        | some exchange => rw [Traffic.step_settle hexchange]; rfl
      · cases hstages : (history.traffic.exchanges.get? id).bind Exchange.stages with
        | none =>
            have hstep := Traffic.step_look_gone hstages
            exact hnone (by simp only [rounds, hstep, Traffic.Stepped.quiet]) (by rw [hstep]; rfl)
        | some stages =>
            obtain ⟨exchange, hexchange, hsome⟩ := Option.bind_eq_some_iff.mp hstages
            obtain ⟨journey, hcurrent, -, hall⟩ := hfaithful.current hexchange
            have hlooked := journey.looked (history.traffic.now, exchange.result)
            rw [← hall stages hsome] at hlooked
            simp only [rounds, passed, Traffic.step_look hexchange hsome, hcurrent, hlooked,
              List.flatMap_cons, List.flatMap_nil, List.append_nil]
      · cases hexchange : history.traffic.exchanges.get? id with
        | none => rw [Traffic.step_drop_gone hexchange]; rfl
        | some exchange => rw [Traffic.step_drop hexchange]; rfl
      · cases hexchange : history.traffic.exchanges.get? id with
        | none =>
            have hstep := Traffic.step_report_gone hexchange event
            exact hnone (by simp only [rounds, hstep, Traffic.Stepped.quiet]) (by rw [hstep]; rfl)
        | some exchange =>
            obtain ⟨journey, hcurrent, htrace, -⟩ := hfaithful.current hexchange
            have hheard := journey.stack.heard_reached journey.request journey.start
              (history.traffic.now, event)
            simp only [rounds, passed, Traffic.step_report hexchange event, hcurrent,
              Exchange.leaves_eq htrace, List.flatMap_cons, List.flatMap_nil, List.append_nil]
            exact hheard

end History

/-! ### What the rounds come to -/

namespace Layer

/-- The gauge that the layer raises for a request. -/
def gauge? : Layer → Option GaugeSink
  | inFlight gauge => some gauge
  | record .. | trace _ => none

/-- The hooks that the layer attaches to a request. -/
def hooks? : Layer → Option HookTable
  | trace hooks => some hooks
  | inFlight _ | record .. => none

/-- Whether the layer records responses. -/
def records : Layer → Bool
  | record .. => true
  | inFlight _ | trace _ => false

/-- What the layer does about the response to a request that was handed in at `start`,
if no look before has shown a result. -/
def closing (start : Instant) (method : String) (now : Instant) (response : Http.Response) :
    Layer → List Effect
  | inFlight gauge => [.lower gauge]
  | record recorder order =>
    [.log (.recording response.status method (now.since start)),
     recorder.record (order.values response.status.text method) (now.since start)]
  | trace _ => []

theorem flatMap_opening (stack : Stack) :
    stack.flatMap opening = (stack.filterMap gauge?).map Effect.raise := by
  induction stack with
  | nil => rfl
  | cons layer inner ih =>
      rw [List.flatMap_cons, ih]
      cases layer <;> rfl

theorem flatMap_timers (stack : Stack) (start : Instant) (does : Leaf → List Effect) :
    stack.flatMap (fun layer => (layer.timers start).flatMap does)
      = (stack.filterMap hooks?).flatMap fun hooks => does (.timer hooks start) := by
  induction stack with
  | nil => rfl
  | cons layer inner ih =>
      rw [List.flatMap_cons, ih]
      cases layer with
      | inFlight gauge => rfl
      | record recorder order => rfl
      | trace hooks => simp [timers, hooks?]

end Layer

/-- As long as no look shows a result, a stage stays as it is. -/
theorem Stage.afterEach_pending {sights : List Sight}
    (hpending : sights.find? (fun sight => !sight.isPending) = none) (stage : Stage) :
    stage.afterEach sights = stage := by
  induction sights with
  | nil => rfl
  | cons sight rest ih =>
      obtain ⟨now, seen⟩ := sight
      cases seen with
      | pending => exact ih (by simpa [Sight.isPending] using hpending)
      | answered response => simp [Sight.isPending] at hpending
      | failed error => simp [Sight.isPending] at hpending

namespace Journey

/-- A look that shows no result is an idle round. -/
theorem round_pending (journey : Journey) (now : Instant) (layer : Layer) :
    (journey.round (now, .pending)).share layer = [] := by
  have hdoes : ∀ stage : Stage, stage.does .pending now = [] := by
    intro stage
    cases stage with
    | gauge raised => cases raised <;> rfl
    | recording due => cases due <;> rfl
  simp [round, Layer.onSight, hdoes]

/-- The first look to show a result finds the stages as the layers made them. -/
theorem round_first {journey : Journey} (hfirst : journey.settled? = none) (sight : Sight)
    (layer : Layer) :
    (journey.round sight).share layer
      = (layer.stages journey.start journey.method).flatMap (Stage.does sight.2 sight.1) := by
  have hstay : Stage.afterEach journey.sights = fun stage => stage := by
    funext stage
    exact Stage.afterEach_pending hfirst stage
  simp only [round, Layer.onSight, hstay, List.map_id']

theorem round_answered {journey : Journey} (hfirst : journey.settled? = none) (now : Instant)
    (response : Http.Response) (layer : Layer) :
    (journey.round (now, .answered response)).share layer
      = layer.closing journey.start journey.method now response := by
  rw [round_first hfirst]
  cases layer <;> rfl

/-- A recording layer settles its recording in the first look that shows a result. -/
theorem round_record (journey : Journey) (sight : Sight) (recorder : Recorder)
    (order : LabelOrder) :
    (journey.round sight).share (.record recorder order)
      = if journey.sights.all Sight.isPending
        then Stage.settle ⟨recorder, order, journey.method, journey.start⟩ sight.1 sight.2
        else [] := by
  simp only [round, Layer.onSight, Layer.stages, List.map_cons, List.map_nil,
    Stage.afterEach_recording, List.flatMap_cons, List.flatMap_nil, List.append_nil]
  cases journey.sights.all Sight.isPending <;> rfl

theorem round_failed {journey : Journey} (hfirst : journey.settled? = none) (now : Instant)
    (error : String) (layer : Layer) :
    (journey.round (now, .failed error)).share layer
      = if layer.records then [.log (.notRecorded journey.method)] else [] := by
  rw [round_first hfirst]
  cases layer <;> rfl

end Journey

/-- In which order the effects of a step stand. -/
structure History.InOrder (history : History) : Prop where
  /-- On a call the gauges are raised, outermost first, before anything is done about an
  event; nothing is recorded. -/
  call : ∀ {id : String} {place : Nat} {service : Service} {request : Request}
    {moments : List Moment}, history.traffic.services[place]? = some service →
      (history.traffic.step (.call id place request moments)).effects
        = (service.stack.filterMap Layer.gauge?).map Effect.raise
          ++ (Moment.timeline history.traffic.now moments).flatMap fun one =>
            request.leaves.flatMap (Leaf.heard one.2 one.1)
              ++ (service.stack.filterMap Layer.hooks?).flatMap fun hooks =>
                Leaf.heard one.2 one.1 (.timer hooks history.traffic.now)
  /-- A look that shows no result has no effects. -/
  pending : ∀ {id : String},
    (history.traffic.step (.look id)).reply = .progress .pending →
      (history.traffic.step (.look id)).effects = []
  /-- When the first result to be shown is a response, each gauge is lowered and each
  recording made, innermost layer first. -/
  answered : ∀ {id : String} {journey : Journey} {response : Http.Response},
    history.current? id = some journey → journey.settled? = none →
    (history.traffic.step (.look id)).reply = .progress (.answered response) →
      (history.traffic.step (.look id)).effects
        = journey.stack.reverse.flatMap
          (Layer.closing journey.start journey.method history.traffic.now response)
  /-- When it is a failure, that is written to the log and nothing else is done. -/
  failed : ∀ {id : String} {journey : Journey} {error : String},
    history.current? id = some journey → journey.settled? = none →
    (history.traffic.step (.look id)).reply = .progress (.failed error) →
      (history.traffic.step (.look id)).effects
        = (journey.stack.reverse.filter Layer.records).map fun _ =>
          .log (.notRecorded journey.method)
  /-- An event reaches the listeners that the request brought along, and then the hooks
  of the layers, outermost first. -/
  report : ∀ {id : String} {journey : Journey} {event : Event} {listening : Bool},
    history.current? id = some journey →
    (history.traffic.step (.report id event)).reply = .flag listening →
      (history.traffic.step (.report id event)).effects
        = journey.request.leaves.flatMap (Leaf.heard event history.traffic.now)
          ++ (journey.stack.filterMap Layer.hooks?).flatMap fun hooks =>
            Leaf.heard event history.traffic.now (.timer hooks journey.start)

/-- A look that shows something is one round through the layers, innermost first. -/
theorem History.Faithful.look_effects {history : History} (hfaithful : history.Faithful)
    {id : String} {journey : Journey} {seen : Http.Progress}
    (hcurrent : history.current? id = some journey)
    (hreply : (history.traffic.step (.look id)).reply = .progress seen) :
    (history.traffic.step (.look id)).effects
      = journey.stack.reverse.flatMap (journey.round (history.traffic.now, seen)).share := by
  rw [hfaithful.step_effects]
  simp [rounds, passed, hcurrent, hreply, Round.effects, Journey.round]

/-- **The effects of every step are in order**, in a history that is faithful. -/
theorem History.Faithful.inOrder {history : History} (hfaithful : history.Faithful) :
    history.InOrder := by
  refine ⟨?_, ?_, ?_, ?_, ?_⟩
  · intro id place service request moments hservice
    rw [Traffic.step_call hservice, Stack.reported, List.flatMap_map]
    show service.stack.flatMap Layer.opening ++ _ = _
    rw [Layer.flatMap_opening]
    congr 2
    funext one
    rw [Round.effects, Request.round, Layer.flatMap_timers]
  · intro id hreply
    rw [hfaithful.step_effects]
    cases hcurrent : history.current? id with
    | none => simp [rounds, hcurrent, hreply]
    | some journey =>
        simp only [rounds, passed, hcurrent, hreply, List.flatMap_cons, List.flatMap_nil,
          Round.effects, List.append_nil]
        show [] ++ journey.stack.reverse.flatMap _ = []
        rw [List.nil_append, List.flatMap_eq_nil_iff]
        intro layer _
        exact journey.round_pending history.traffic.now layer
  · intro id journey response hcurrent hfirst hreply
    rw [hfaithful.look_effects hcurrent hreply]
    congr 1
    funext layer
    exact Journey.round_answered hfirst history.traffic.now response layer
  · intro id journey error hcurrent hfirst hreply
    rw [hfaithful.look_effects hcurrent hreply]
    have hshare : (journey.round (history.traffic.now, .failed error)).share
        = fun layer => if layer.records then [.log (.notRecorded journey.method)] else [] := by
      funext layer
      exact Journey.round_failed hfirst history.traffic.now error layer
    rw [hshare]
    induction journey.stack.reverse with
    | nil => rfl
    | cons layer inner ih =>
        rw [List.flatMap_cons, ih]
        cases h : layer.records <;> simp [h]
  · intro id journey event listening hcurrent hreply
    rw [hfaithful.step_effects]
    simp only [rounds, passed, hcurrent, hreply, List.flatMap_cons, List.flatMap_nil,
      List.append_nil, Round.effects, Request.round, Layer.flatMap_timers]

end Telemetry
