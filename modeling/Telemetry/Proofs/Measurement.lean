/-
All layers measure a request with one clock and from one point.

Every layer reads the clock for itself: a recording layer and a tracing layer each when the
request comes in, a recording layer again when the response is seen, and a timer whenever an
event is reported.  Still their measurements can be compared.  No time passes between the
layers, so whatever is measured at a step of a request is the time from its call to that
step (`Faithful.step_measured`); and since the clock never goes back, what is measured
before the response is seen is at most what the recording layers measure then, and what is
measured after it is at least that.

The times are durations in whole nanoseconds, as they are before a sink turns them into
seconds.
-/
import Telemetry.Proofs.Chronology
import Telemetry.Proofs.Isolation
import Telemetry.Proofs.Pairing
import Telemetry.Proofs.Rounds

namespace Telemetry

/-! ### What is measured -/

/-- The time that an observer or a hook is told. -/
def Effect.elapsed? : Effect → Option Duration
  | observe _ (.elapsed d) _ => some d
  | note _ _ (.elapsed d) => some d
  | _ => none

/-- Whether all times told by some effects are `P`. -/
def Timing (P : Duration → Prop) (effects : List Effect) : Prop :=
  ∀ effect ∈ effects, ∀ d, effect.elapsed? = some d → P d

theorem Timing.mono {P Q : Duration → Prop} (himp : ∀ d, P d → Q d) {effects : List Effect}
    (h : Timing P effects) : Timing Q effects :=
  fun effect hmem d hd => himp d (h effect hmem d hd)

theorem Timing.flatMap {P : Duration → Prop} {α : Type} {l : List α} {does : α → List Effect}
    (h : ∀ a ∈ l, Timing P (does a)) : Timing P (l.flatMap does) := by
  intro effect hmem
  obtain ⟨a, ha, heffect⟩ := List.mem_flatMap.mp hmem
  exact h a ha effect heffect

/-- Whether an effect is an observation. -/
def Effect.isObservation : Effect → Bool
  | observe .. => true
  | _ => false

/-- The observation that a layer makes of the time that a response took, if it makes one. -/
def Layer.observation? (request : Request) (response : Http.Response) (elapsed : Duration) :
    Layer → Option Effect
  | record (.observe sink) order =>
    some (.observe sink (.elapsed elapsed)
      (order.values response.status.text request.method.label))
  | record (.count _) _ | inFlight _ | trace _ => none

/-- Whether a leaf is a listener of its own, and no timer of a tracing layer. -/
def Leaf.isProbe : Leaf → Bool
  | probe .. => true
  | timer .. => false

/-! ### Whatever is measured is the time since the call -/

theorem Leaf.heard_measured (start now : Instant) (event : Event) (leaf : Leaf)
    (hleaf : leaf.isProbe = true ∨ ∃ hooks, leaf = .timer hooks start) :
    Timing (· = now.since start) (leaf.heard event now) := by
  intro effect hmem d hd
  rcases hleaf with hprobe | ⟨hooks, rfl⟩
  · cases leaf with
    | timer hooks other => cases hprobe
    | probe name attention =>
        rw [heard] at hmem
        split at hmem
        · rw [List.mem_singleton.mp hmem] at hd
          cases hd
        · exact absurd hmem (List.not_mem_nil)
  · rw [heard] at hmem
    cases hfailure : event.failure with
    | some error =>
        rw [hfailure] at hmem
        rw [List.mem_singleton.mp hmem] at hd
        cases hd
    | none =>
        rw [hfailure] at hmem
        cases hhook : hooks.hook? event.phase with
        | none =>
            rw [hhook] at hmem
            exact absurd hmem (List.not_mem_nil)
        | some hook =>
            rw [hhook] at hmem
            rcases List.mem_pair.mp hmem with rfl | rfl
            · cases hd
            · cases hook <;> exact (Option.some.inj hd).symm

theorem Stage.settle_measured (due : Recording) (now : Instant) (seen : Http.Progress) :
    Timing (· = now.since due.start) (settle due now seen) := by
  intro effect hmem d hd
  cases seen with
  | pending => exact absurd hmem (List.not_mem_nil)
  | failed error =>
      rw [List.mem_singleton.mp hmem] at hd
      cases hd
  | answered response =>
      rcases List.mem_pair.mp hmem with rfl | rfl
      · cases hd
      · cases hrecorder : due.recorder with
        | count sink =>
            rw [hrecorder] at hd
            cases hd
        | observe sink =>
            rw [hrecorder] at hd
            exact (Option.some.inj hd).symm

namespace Journey

variable (journey : Journey)

/-- What a layer measures at a look is the time from the call to the look. -/
theorem round_measured (sight : Sight) (layer : Layer) :
    Timing (· = sight.1.since journey.start) ((journey.round sight).share layer) := by
  cases layer with
  | inFlight sink =>
      have honly : (Layer.inFlight sink).Only fun effect => effect.elapsed? = none := ⟨rfl, rfl⟩
      intro effect hmem d hd
      rw [honly.onSight (fun _ => rfl) journey sight effect hmem] at hd
      cases hd
  | record recorder order =>
      intro effect hmem d hd
      rw [round_record] at hmem
      by_cases hdue : journey.sights.all Sight.isPending
      · rw [if_pos hdue] at hmem
        exact Stage.settle_measured _ sight.1 sight.2 effect hmem d hd
      · rw [if_neg hdue] at hmem
        exact absurd hmem (List.not_mem_nil)
  | trace hooks => exact fun effect hmem => absurd hmem (List.not_mem_nil)

/-- So is what the layers and the request's own listeners measure at a report. -/
theorem report_measured (hown : ∀ leaf ∈ journey.request.leaves, leaf.isProbe)
    (one : Instant × Event) (passed : List Layer) :
    Timing (· = one.1.since journey.start)
      ((journey.request.round journey.start one).effects passed) := by
  intro effect hmem
  rcases List.mem_append.mp hmem with hfirst | hshare
  · exact Timing.flatMap (fun leaf hleaf =>
      leaf.heard_measured journey.start one.1 one.2 (.inl (hown leaf hleaf))) effect hfirst
  · refine Timing.flatMap (fun layer _ => Timing.flatMap fun leaf hleaf => ?_) effect hshare
    refine leaf.heard_measured journey.start one.1 one.2 (.inr ?_)
    cases layer with
    | inFlight sink => exact absurd hleaf (List.not_mem_nil)
    | record recorder order => exact absurd hleaf (List.not_mem_nil)
    | trace hooks => exact ⟨hooks, List.mem_singleton.mp hleaf⟩

end Journey

/-! ### A request along a run -/

/-- Whether a step hands in a request under an identifier. -/
def Traffic.Step.handsIn (id : String) : Traffic.Step → Bool
  | .call other .. => other = id
  | _ => false

/-- What a step shows of a request, and when. -/
def Seen.sight? (seen : Seen) : Option Sight :=
  match seen.reply with
  | .progress shown => some (seen.now, shown)
  | _ => none

/-- A later state of a journey, in which it has some more sights. -/
structure Journey.Continues (journey later : Journey) (sights : List Sight) : Prop where
  stack : later.stack = journey.stack
  request : later.request = journey.request
  start : later.start = journey.start
  sights : later.sights = journey.sights ++ sights

theorem Journey.Continues.refl (journey : Journey) : journey.Continues journey [] :=
  ⟨rfl, rfl, rfl, (List.append_nil _).symm⟩

theorem Journey.Continues.trans {journey between later : Journey} {front back : List Sight}
    (hfront : journey.Continues between front) (hback : between.Continues later back) :
    journey.Continues later (front ++ back) :=
  ⟨hback.stack.trans hfront.stack, hback.request.trans hfront.request,
    hback.start.trans hfront.start, by rw [hback.sights, hfront.sights, List.append_assoc]⟩

namespace History

variable {history : History} {id : String} {journey : Journey}

/-- As long as no other request is handed in under its identifier, a request is known by
it, and its sights are what its steps have shown. -/
theorem current?_next (hcurrent : history.current? id = some journey) {step : Traffic.Step}
    (hsame : step.handsIn id = false) :
    ∃ later, (history.next step).current? id = some later ∧
      journey.Continues later ((history.traffic.watch id [step]).filterMap Seen.sight?) := by
  have hstay : history.record step = history.journeys →
      (history.next step).current? id = some journey := by
    intro hrecord
    rw [current?, next, hrecord]
    exact hcurrent
  by_cases hown : step.id? = some id
  · simp only [Traffic.watch, if_pos hown]
    obtain ⟨place, request, moments, rfl⟩ | ⟨result, rfl⟩ | rfl | rfl | ⟨event, rfl⟩ :=
      Traffic.Step.about hown
    · simp [Traffic.Step.handsIn] at hsame
    · refine ⟨journey, hstay rfl, ?_⟩
      cases hexchange : history.traffic.exchanges.get? id with
      | none => rw [Traffic.step_settle_gone hexchange]; exact .refl journey
      | some exchange => rw [Traffic.step_settle hexchange]; exact .refl journey
    · cases hstages : (history.traffic.exchanges.get? id).bind Exchange.stages with
      | none =>
          have hstep := Traffic.step_look_gone hstages
          refine ⟨journey, hstay (by simp only [record, hstep, Traffic.Stepped.quiet]), ?_⟩
          rw [hstep]
          exact .refl journey
      | some stages =>
          obtain ⟨exchange, hexchange, hsome⟩ := Option.bind_eq_some_iff.mp hstages
          have hstep := Traffic.step_look hexchange hsome
          refine ⟨_, current?_look hcurrent (by rw [hstep]), ?_⟩
          rw [hstep]
          exact ⟨rfl, rfl, rfl, rfl⟩
    · refine ⟨journey, hstay rfl, ?_⟩
      cases hexchange : history.traffic.exchanges.get? id with
      | none => rw [Traffic.step_drop_gone hexchange]; exact .refl journey
      | some exchange => rw [Traffic.step_drop hexchange]; exact .refl journey
    · cases hexchange : history.traffic.exchanges.get? id with
      | none =>
          have hstep := Traffic.step_report_gone hexchange event
          refine ⟨journey, hstay (by simp only [record, hstep, Traffic.Stepped.quiet]), ?_⟩
          rw [hstep]
          exact .refl journey
      | some exchange =>
          have hstep := Traffic.step_report hexchange event
          refine ⟨_, current?_report hcurrent (by rw [hstep]), ?_⟩
          rw [hstep]
          exact ⟨rfl, rfl, rfl, (List.append_nil _).symm⟩
  · simp only [Traffic.watch, if_neg hown]
    refine ⟨journey, ?_, .refl journey⟩
    cases hid : step.id? with
    | none => exact hstay (history.record_free hid)
    | some other =>
        have hne : other ≠ id := fun h => hown (by rw [hid, h])
        have hrest := AgreeFor.record_elsewhere history hid hne
        rw [current?, next, ← List.head?_filter, hrest, List.head?_filter]
        exact hcurrent

theorem current?_run (hcurrent : history.current? id = some journey) {steps : List Traffic.Step}
    (hsame : ∀ step ∈ steps, step.handsIn id = false) :
    ∃ later, (history.run steps).current? id = some later ∧
      journey.Continues later ((history.traffic.watch id steps).filterMap Seen.sight?) := by
  induction steps generalizing history journey with
  | nil => exact ⟨journey, hcurrent, .refl journey⟩
  | cons step rest ih =>
      obtain ⟨between, hbetween, hfront⟩ := current?_next hcurrent (hsame step (by simp))
      obtain ⟨later, hlater, hback⟩ := ih hbetween fun other h => hsame other (by simp [h])
      refine ⟨later, hlater, ?_⟩
      have hwatch : history.traffic.watch id (step :: rest)
          = history.traffic.watch id [step] ++ (history.next step).traffic.watch id rest := by
        simp only [Traffic.watch]
        split <;> rfl
      rw [hwatch, List.filterMap_append]
      exact hfront.trans hback

/-- At every step of a request, whatever is measured is the time since its call. -/
theorem Faithful.step_measured (hfaithful : history.Faithful)
    (hcurrent : history.current? id = some journey)
    (hown : ∀ leaf ∈ journey.request.leaves, leaf.isProbe) {step : Traffic.Step}
    (hstep : step.id? = some id) (hsame : step.handsIn id = false) :
    Timing (· = history.traffic.now.since journey.start) (history.traffic.step step).effects := by
  have hnone : history.rounds step = [] →
      Timing (· = history.traffic.now.since journey.start) (history.traffic.step step).effects := by
    intro hrounds
    rw [hfaithful.step_effects, hrounds]
    exact fun _ h => absurd h (List.not_mem_nil)
  obtain ⟨place, request, moments, rfl⟩ | ⟨result, rfl⟩ | rfl | rfl | ⟨event, rfl⟩ :=
    Traffic.Step.about hstep
  · simp [Traffic.Step.handsIn] at hsame
  · exact hnone rfl
  · cases hreply : (history.traffic.step (.look id)).reply with
    | progress seen =>
        rw [hfaithful.look_effects hcurrent hreply]
        exact Timing.flatMap fun layer _ => journey.round_measured (history.traffic.now, seen) layer
    | done | flag | index | readiness | reached | gone | noService =>
        exact hnone (by simp only [rounds, hreply])
  · exact hnone rfl
  · cases hreply : (history.traffic.step (.report id event)).reply with
    | flag listening =>
        have hrounds : history.rounds (.report id event)
            = [journey.request.round journey.start (history.traffic.now, event)] := by
          simp only [rounds, hreply, hcurrent]
        rw [hfaithful.step_effects, hrounds, List.flatMap_singleton]
        exact journey.report_measured hown (history.traffic.now, event) _
    | done | progress | index | readiness | reached | gone | noService =>
        exact hnone (by simp only [rounds, hreply])

theorem now_le_run (history : History) (steps : List Traffic.Step) :
    history.traffic.now ≤ (history.run steps).traffic.now := by
  induction steps generalizing history with
  | nil => exact Nat.le_refl _
  | cons step rest ih =>
      exact Nat.le_trans (history.traffic.now_le_step step) (ih (history.next step))

/-- So it is at all steps of a run, and these are taken while the run lasts. -/
theorem Faithful.watch_measured (hfaithful : history.Faithful)
    (hcurrent : history.current? id = some journey)
    (hown : ∀ leaf ∈ journey.request.leaves, leaf.isProbe) {steps : List Traffic.Step}
    (hsame : ∀ step ∈ steps, step.handsIn id = false) :
    ∀ seen ∈ history.traffic.watch id steps,
      history.traffic.now ≤ seen.now ∧ seen.now ≤ (history.run steps).traffic.now ∧
        Timing (· = seen.now.since journey.start) seen.effects := by
  induction steps generalizing history journey with
  | nil => exact fun _ h => absurd h (List.not_mem_nil)
  | cons step rest ih =>
      intro seen hmem
      have hfirst : step.handsIn id = false := hsame step (by simp)
      have hlast : (history.next step).traffic.now ≤ (history.run (step :: rest)).traffic.now :=
        (history.next step).now_le_run rest
      have hlater : seen ∈ (history.next step).traffic.watch id rest →
          history.traffic.now ≤ seen.now ∧
            seen.now ≤ (history.run (step :: rest)).traffic.now ∧
            Timing (· = seen.now.since journey.start) seen.effects := by
        intro h
        obtain ⟨later, hthere, hcontinues⟩ := current?_next hcurrent hfirst
        obtain ⟨hfrom, hto, htiming⟩ := ih (hfaithful.next step) hthere
          (by rw [hcontinues.request]; exact hown) (fun other h => hsame other (by simp [h])) seen h
        rw [hcontinues.start] at htiming
        exact ⟨Nat.le_trans (history.traffic.now_le_step step) hfrom, hto, htiming⟩
      rw [Traffic.watch] at hmem
      split at hmem
      · rename_i hstep
        rcases List.mem_cons.mp hmem with rfl | hrest
        · exact ⟨Nat.le_refl _, Nat.le_trans (history.traffic.now_le_step step) hlast,
            hfaithful.step_measured hcurrent hown hstep hfirst⟩
        · exact hlater hrest
      · exact hlater hmem

/-- While a request is handed in, no more time is measured than that takes. -/
theorem Faithful.call_measured (hfaithful : history.Faithful) {place : Nat} {service : Service}
    (hservice : history.traffic.services[place]? = some service) {request : Request}
    (hown : ∀ leaf ∈ request.leaves, leaf.isProbe) (moments : List Moment) :
    Timing (· ≤ (Moment.finish history.traffic.now moments).since history.traffic.now)
      (history.traffic.step (.call id place request moments)).effects := by
  have hrounds : history.rounds (.call id place request moments)
      = .opening :: (Moment.timeline history.traffic.now moments).map
          (request.round history.traffic.now) := by
    simp only [rounds, Traffic.step_call hservice]
  rw [hfaithful.step_effects, hrounds]
  refine Timing.flatMap fun round hround => ?_
  rcases List.mem_cons.mp hround with rfl | hevent
  · intro effect hmem d hd
    rw [Round.effects, Round.opening, List.nil_append, Layer.flatMap_opening] at hmem
    obtain ⟨sink, -, rfl⟩ := List.mem_map.mp hmem
    cases hd
  · obtain ⟨one, hone, rfl⟩ := List.mem_map.mp hevent
    let journey : Journey := ⟨id, service.stack, request, history.traffic.now, [], []⟩
    refine Timing.mono ?_ (journey.report_measured hown one _)
    rintro d rfl
    exact Nat.sub_le_sub_right (Moment.timeline_within _ moments one hone).2 _

/-- The first response to be seen is observed by every layer that observes times, with the
time since the call. -/
theorem Faithful.look_observed (hfaithful : history.Faithful)
    (hcurrent : history.current? id = some journey) (hfirst : journey.settled? = none)
    {response : Http.Response}
    (hreply : (history.traffic.step (.look id)).reply = .progress (.answered response)) :
    (history.traffic.step (.look id)).effects.filter Effect.isObservation
      = journey.stack.reverse.filterMap (Layer.observation? journey.request response
          (history.traffic.now.since journey.start)) := by
  rw [hfaithful.inOrder.answered hcurrent hfirst hreply]
  induction journey.stack.reverse with
  | nil => rfl
  | cons layer inner ih =>
      rw [List.flatMap_cons, List.filter_append, ih, List.filterMap_cons]
      cases layer with
      | inFlight sink => rfl
      | record recorder order => cases recorder <;> rfl
      | trace hooks => rfl

/--
**All layers measure a request alike.**

Let a request that carries no timer be handed in, and let the first result that a look at it
shows be a response.  Then every layer that observes times observes one and the same: the
time `d` that leads from the call to this look.  Whatever else a layer measures of the
request, at the call or at a later step, is at most `d` up to the look and at least `d`
after it.
-/
theorem timings_agree {traffic : Traffic} (hidle : traffic.exchanges = .empty)
    (earlier between later : List Traffic.Step) {id : String} {place : Nat} {service : Service}
    {request : Request} (hown : ∀ leaf ∈ request.leaves, leaf.isProbe) (moments : List Moment)
    {response : Http.Response} :
    let called := (History.start traffic).run earlier
    let handed := called.next (.call id place request moments)
    let settled := handed.run between
    let d := settled.traffic.now.since called.traffic.now
    called.traffic.services[place]? = some service →
    (∀ step ∈ between ++ later, step.handsIn id = false) →
    (∀ seen ∈ handed.traffic.watch id between, ∀ sight, seen.sight? = some sight →
      sight.isPending) →
    (settled.traffic.step (.look id)).reply = .progress (.answered response) →
      called.traffic.now.after d = settled.traffic.now ∧
      (settled.traffic.step (.look id)).effects.filter Effect.isObservation
        = service.stack.reverse.filterMap (Layer.observation? request response d) ∧
      Timing (· ≤ d) (called.traffic.step (.call id place request moments)).effects ∧
      (∀ seen ∈ handed.traffic.watch id between, Timing (· ≤ d) seen.effects) ∧
      ∀ seen ∈ (settled.next (.look id)).traffic.watch id later, Timing (d ≤ ·) seen.effects := by
  intro called handed settled d hservice hsame hwaiting hreply
  have hcalled : called.Faithful := Faithful.run hidle earlier
  have hhanded : handed.Faithful := hcalled.next _
  have hsettled : settled.Faithful := run_keeps (fun _ step h => h.next step) hhanded between
  have hbetween : ∀ step ∈ between, step.handsIn id = false :=
    fun step h => hsame step (List.mem_append_left later h)
  have hlater : ∀ step ∈ later, step.handsIn id = false :=
    fun step h => hsame step (List.mem_append_right between h)
  have htook : handed.traffic.now = Moment.finish called.traffic.now moments := by
    show (called.traffic.step _).traffic.now = _
    rw [Traffic.step_call hservice]
    rfl
  have hwaited : handed.traffic.now ≤ settled.traffic.now := handed.now_le_run between
  -- The request is followed from its call to the look, and from the look on.
  have hcurrent : handed.current? id = some ⟨id, service.stack, request, called.traffic.now, [],
      Moment.timeline called.traffic.now moments⟩ := current?_call hservice request moments
  obtain ⟨journey, hthere, hjourney⟩ := current?_run hcurrent hbetween
  have hlooks : (Traffic.Step.look id).handsIn id = false := rfl
  obtain ⟨seen, hseen, hcontinues⟩ := current?_next hthere hlooks
  have hstart : journey.start = called.traffic.now := hjourney.start
  have hfirst : journey.settled? = none := by
    rw [Journey.settled?, hjourney.sights, List.nil_append, List.find?_eq_none]
    intro sight hsight
    obtain ⟨seen, hmem, hshown⟩ := List.mem_filterMap.mp hsight
    simpa using hwaiting seen hmem sight hshown
  refine ⟨?_, ?_, ?_, ?_, ?_⟩
  · exact Instant.after_since (Nat.le_trans (called.traffic.now_le_step _) hwaited)
  · have hobserved := hsettled.look_observed hthere hfirst hreply
    rw [hjourney.stack, hjourney.request, hstart] at hobserved
    exact hobserved
  · refine Timing.mono ?_ (hcalled.call_measured hservice hown moments)
    intro e he
    rw [← htook] at he
    exact Nat.le_trans he (Nat.sub_le_sub_right hwaited _)
  · intro seen hmem
    obtain ⟨-, hto, htiming⟩ := hhanded.watch_measured hcurrent hown hbetween seen hmem
    refine Timing.mono ?_ htiming
    rintro e rfl
    exact Nat.sub_le_sub_right hto _
  · intro last hmem
    have hlooked : (settled.next (.look id)).Faithful := hsettled.next _
    obtain ⟨hfrom, -, htiming⟩ := hlooked.watch_measured hseen
      (by rw [hcontinues.request, hjourney.request]; exact hown) hlater last hmem
    rw [hcontinues.start, hstart] at htiming
    refine Timing.mono ?_ htiming
    rintro e rfl
    exact Nat.sub_le_sub_right (Nat.le_trans (settled.traffic.now_le_step _) hfrom) _

end History

/-- Two layers that observe times with a tracing layer between them, an event before the
response is seen and one after the caller has dropped the request. -/
theorem History.timings_agree_around :
    let traced : HookTable := HookTable.empty.on .dnsStart (.note "traced" .dnsStart)
    let service : Service :=
      ⟨[.record (.observe (.probe "outer" ["method"])) ⟨[.method], by decide⟩, .trace traced,
        .record (.observe (.probe "inner" [])) ⟨[], by decide⟩], .scripted, 0⟩
    let traffic : Traffic := ⟨.start, .ready, [service], .empty⟩
    let request : Request := ⟨⟨"GET", by decide⟩, .ofString "/", .none, "",
      some ⟨[.leaf (.probe "own" .everything)]⟩⟩
    let response : Http.Response := ⟨⟨200, by decide, by decide⟩, .none, ""⟩
    let earlier : List Traffic.Step := [.advance ⟨3⟩]
    let between : List Traffic.Step :=
      [.look "a", .advance ⟨7⟩, .report "a" (.dnsStart "host"), .settle "a" (.answered response)]
    let later : List Traffic.Step := [.drop "a", .advance ⟨1⟩, .report "a" (.dnsStart "host")]
    let called := (History.start traffic).run earlier
    let handed := called.next (.call "a" 0 request [.wait ⟨5⟩])
    let settled := handed.run between
    (settled.traffic.step (.look "a")).effects.filter Effect.isObservation
        = [.observe (.probe "inner" []) (.elapsed ⟨12⟩) [],
          .observe (.probe "outer" ["method"]) (.elapsed ⟨12⟩) ["get"]] ∧
      (∀ seen ∈ handed.traffic.watch "a" between, Timing (· ≤ ⟨12⟩) seen.effects) ∧
      ∀ seen ∈ (settled.next (.look "a")).traffic.watch "a" later,
        Timing (⟨12⟩ ≤ ·) seen.effects := by
  intro traced service traffic request response earlier between later called handed settled
  have hidle : traffic.exchanges = .empty := rfl
  have hown : ∀ leaf ∈ request.leaves, leaf.isProbe := by decide
  have hsame : ∀ step ∈ between ++ later, step.handsIn "a" = false := by
    simp [between, later, Traffic.Step.handsIn]
  have hwaiting : ∀ seen ∈ handed.traffic.watch "a" between, ∀ sight,
      seen.sight? = some sight → sight.isPending := by
    have hsights : (handed.traffic.watch "a" between).filterMap Seen.sight?
        = [(⟨8⟩, .pending)] := rfl
    intro seen hmem sight hshown
    have hsight := List.mem_filterMap.mpr ⟨seen, hmem, hshown⟩
    rw [hsights, List.mem_singleton] at hsight
    rw [hsight]
    rfl
  obtain ⟨-, hobserved, -, hbefore, hafter⟩ := History.timings_agree hidle earlier between later
    hown [.wait ⟨5⟩] rfl hsame hwaiting rfl
  exact ⟨hobserved.trans (by decide), hbefore, hafter⟩

end Telemetry
