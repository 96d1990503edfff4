/-
Hooks are told the time since the call.

Whenever the transport reports an event of a request, the event goes to the listeners
that the request had before the call, and then, from the outside in, each tracing layer
calls the hook of the event's phase, if there is one and the phase did not end in
failure.  The hook is given the time since the call.  That holds for every report: while
the transport is handed the request, between looks, after the result and after the
caller has dropped the request.

`Journey.fired` is what one report should do, and `History.Delivers` says that it is what
the step does.  The log is left aside: a timer writes to it before it calls a hook, and
also when it calls none.  That a hook's readings never decrease follows from the order of
the reports, for all of them are taken from the one instant of the call.
-/
import Telemetry.Proofs.Chronology
import Telemetry.Proofs.Rounds

namespace Telemetry

/-! ### What one report should do -/

/-- A hook that is called with the time since a request was handed in. -/
structure HookCall where
  hook : Hook
  elapsed : Duration

/-- The effect of the call. -/
def HookCall.effect (call : HookCall) : Effect := call.hook.call (.elapsed call.elapsed)

/-- The hook that a table has called for an event of a request that was handed in at
`start`: the one set for the event's phase, unless the phase may fail and did. -/
def HookTable.call? (start : Instant) (one : Instant × Event) (table : HookTable) :
    Option HookCall :=
  if one.2.phase ∈ Phase.fallible ∧ one.2.failure.isSome then none
  else (table.hook? one.2.phase).map fun hook => ⟨hook, one.1.since start⟩

/-- Whether an effect is more than a note in the log. -/
def Effect.unlogged (effect : Effect) : Bool := effect.logRecord?.isNone

namespace Journey

/-- What the report of an event should do, the log aside. -/
def fired (journey : Journey) (one : Instant × Event) : List Effect :=
  ((journey.request.fire one.2).run one.1).effects.filter Effect.unlogged
    ++ ((journey.stack.filterMap Layer.hooks?).filterMap
      (HookTable.call? journey.start one)).map HookCall.effect

/-- The calls of a table's hooks for the events reported of the request, in order. -/
def calls (journey : Journey) (table : HookTable) : List HookCall :=
  journey.reports.filterMap (table.call? journey.start)

end Journey

/-- In a history, the next report does what it should, and is remembered. -/
structure History.Delivers (history : History) : Prop where
  /-- What is reported while a request is handed in comes after the raised gauges. -/
  call : ∀ {id : String} {place : Nat} {service : Service} {request : Request}
    {moments : List Moment}, history.traffic.services[place]? = some service →
      ∃ journey, (history.next (.call id place request moments)).current? id = some journey ∧
        journey.stack = service.stack ∧ journey.request = request ∧
        journey.start = history.traffic.now ∧
        journey.reports = Moment.timeline history.traffic.now moments ∧
        (history.traffic.step (.call id place request moments)).effects.filter Effect.unlogged
          = (service.stack.filterMap Layer.gauge?).map Effect.raise
            ++ journey.reports.flatMap journey.fired
  /-- A later report finds the request as it was handed in, whatever has become of it. -/
  report : ∀ {id : String} {journey : Journey} {event : Event},
    history.current? id = some journey →
      (history.traffic.step (.report id event)).effects.filter Effect.unlogged
        = journey.fired (history.traffic.now, event) ∧
      (history.next (.report id event)).current? id
        = some (journey.hear (history.traffic.now, event))
  /-- No other step adds to what was reported. -/
  otherwise : ∀ {step : Traffic.Step},
    (∀ id place request moments, step ≠ .call id place request moments) →
    (∀ id event, step ≠ .report id event) →
      (history.next step).journeys.map Journey.reports = history.journeys.map Journey.reports

/-! ### What a timer does about one event -/

theorem Hook.unlogged_call (hook : Hook) (reading : Reading) :
    (hook.call reading).unlogged = true := by
  cases hook <;> rfl

/-- A timer calls the hook of its table that the event calls for, and no other. -/
theorem Leaf.heard_timer (hooks : HookTable) (start : Instant) (one : Instant × Event) :
    (Leaf.heard one.2 one.1 (.timer hooks start)).filter Effect.unlogged
      = ((hooks.call? start one).map HookCall.effect).toList := by
  obtain ⟨now, event⟩ := one
  cases hfailure : event.failure with
  | some error =>
      have hfallible : event.phase ∈ Phase.fallible :=
        Event.fallible_of_failure (by rw [hfailure]; rfl)
      simp [Leaf.heard, HookTable.call?, hfailure, hfallible, Effect.unlogged, Effect.logRecord?]
  | none =>
      cases hhook : hooks.hook? event.phase with
      | none => simp [Leaf.heard, HookTable.call?, hfailure, hhook]
      | some hook =>
          have hlog : Effect.unlogged (.log (.lifecycle event.phase (now.since start))) = false :=
            rfl
          simp [Leaf.heard, HookTable.call?, hfailure, hhook, hlog, Hook.unlogged_call,
            HookCall.effect]

theorem Leaf.heard_timers (tables : List HookTable) (start : Instant) (one : Instant × Event) :
    (tables.flatMap fun hooks => Leaf.heard one.2 one.1 (.timer hooks start)).filter
        Effect.unlogged
      = (tables.filterMap (HookTable.call? start one)).map HookCall.effect := by
  induction tables with
  | nil => rfl
  | cons hooks rest ih =>
      rw [List.flatMap_cons, List.filter_append, ih, Leaf.heard_timer, List.filterMap_cons]
      cases hooks.call? start one <;> rfl

/-- The listeners of a request and of its layers do what the report should do. -/
theorem Journey.fired_eq (journey : Journey) (one : Instant × Event) :
    (journey.request.leaves.flatMap (Leaf.heard one.2 one.1)
      ++ (journey.stack.filterMap Layer.hooks?).flatMap fun hooks =>
        Leaf.heard one.2 one.1 (.timer hooks journey.start)).filter Effect.unlogged
      = journey.fired one := by
  rw [List.filter_append, Leaf.heard_timers, fired, Request.fire_run]

/-! ### Every step does what it should -/

namespace History

variable {history : History}

/-- What a change leaves alone in one journey it leaves alone in all. -/
theorem map_revise {α : Type} {part : Journey → α} (change : Journey → Journey)
    (hsame : ∀ journey, part (change journey) = part journey) (id : String)
    (journeys : List Journey) :
    (Journey.revise id change journeys).map part = journeys.map part := by
  induction journeys with
  | nil => rfl
  | cons journey earlier ih =>
      rw [Journey.revise]
      by_cases hid : journey.id = id
      · rw [if_pos hid, List.map_cons, List.map_cons, hsame]
      · rw [if_neg hid, List.map_cons, List.map_cons, ih]

/-- Nothing but a call and a report adds to what was reported. -/
theorem reports_record (history : History) {step : Traffic.Step}
    (hcall : ∀ id place request moments, step ≠ .call id place request moments)
    (hreport : ∀ id event, step ≠ .report id event) :
    (history.record step).map Journey.reports = history.journeys.map Journey.reports := by
  cases hid : step.id? with
  | none => rw [history.record_free hid]
  | some id =>
      obtain ⟨place, request, moments, rfl⟩ | ⟨result, rfl⟩ | rfl | rfl | ⟨event, rfl⟩ :=
        Traffic.Step.about hid
      · exact absurd rfl (hcall id place request moments)
      · rfl
      · simp only [record]
        cases (history.traffic.step (.look id)).reply with
        | progress seen =>
            exact map_revise (Journey.see (history.traffic.now, seen)) (fun _ => rfl) id _
        | done | flag | index | readiness | reached | gone | noService => rfl
      · rfl
      · exact absurd rfl (hreport id event)

/-- A request that is reported on hears of it, and its exchange is still there. -/
theorem Faithful.report (hfaithful : history.Faithful) (hremembers : history.Remembers)
    {id : String} {journey : Journey} (hcurrent : history.current? id = some journey)
    (event : Event) :
    (history.traffic.step (.report id event)).effects.filter Effect.unlogged
        = journey.fired (history.traffic.now, event) ∧
      (history.next (.report id event)).current? id
        = some (journey.hear (history.traffic.now, event)) := by
  have hmem : journey ∈ history.journeys := List.mem_of_find?_eq_some hcurrent
  have hid : journey.id = id := by simpa using List.find?_some hcurrent
  obtain ⟨exchange, hexchange⟩ := Option.isSome_iff_exists.mp (hid ▸ hremembers journey hmem)
  have hreply : (history.traffic.step (.report id event)).reply
      = .flag exchange.trace.isSome := by rw [Traffic.step_report hexchange event]
  refine ⟨?_, current?_report hcurrent hreply⟩
  rw [hfaithful.inOrder.report hcurrent hreply]
  exact journey.fired_eq (history.traffic.now, event)

theorem Faithful.delivers (hfaithful : history.Faithful) (hremembers : history.Remembers) :
    history.Delivers := by
  refine ⟨?_, fun hcurrent => hfaithful.report hremembers hcurrent _,
    fun hcall hreport => history.reports_record hcall hreport⟩
  intro id place service request moments hservice
  have hraise : ((service.stack.filterMap Layer.gauge?).map Effect.raise).filter Effect.unlogged
      = (service.stack.filterMap Layer.gauge?).map Effect.raise := by
    refine List.filter_eq_self.mpr fun effect hmem => ?_
    obtain ⟨sink, -, rfl⟩ := List.mem_map.mp hmem
    rfl
  let journey : Journey := ⟨id, service.stack, request, history.traffic.now, [],
    Moment.timeline history.traffic.now moments⟩
  refine ⟨journey, current?_call hservice request moments, rfl, rfl, rfl, rfl, ?_⟩
  rw [hfaithful.inOrder.call hservice, List.filter_append, hraise, List.filter_flatMap]
  congr 2
  funext one
  exact journey.fired_eq one

end History

/--
**Hooks are told the time since the call.**

Whatever steps idle traffic has taken, the next report of an event does what it should:
the listeners that the request had before the call come first, and then each tracing
layer, outermost first, calls the one hook that the event calls for, if there is one.
The time that the hook is given leads from the instant of the call to that of the report,
and along the reports of one request the times that a layer gives never decrease.
-/
theorem History.hooks_told_elapsed {traffic : Traffic} (hidle : traffic.exchanges = .empty)
    (steps : List Traffic.Step) :
    let here := (History.start traffic).run steps
    here.Delivers ∧
    ∀ journey ∈ here.journeys,
      (∀ one ∈ journey.reports, ∀ (table : HookTable) (call : HookCall),
        table.call? journey.start one = some call →
          journey.start.after call.elapsed = one.1) ∧
      ∀ table : HookTable,
        (journey.calls table).Pairwise fun call later => call.elapsed ≤ later.elapsed := by
  intro here
  have hfaithful : here.Faithful := History.Faithful.run hidle steps
  refine ⟨hfaithful.delivers (History.remembers traffic steps), ?_⟩
  intro journey hmem
  have htimely := History.timely traffic steps journey hmem
  have helapsed : ∀ {one : Instant × Event} {table : HookTable} {call : HookCall},
      table.call? journey.start one = some call → call.elapsed = one.1.since journey.start := by
    intro one table call hcall
    rw [HookTable.call?] at hcall
    split at hcall
    · cases hcall
    · obtain ⟨hook, -, rfl⟩ := Option.map_eq_some_iff.mp hcall
      rfl
  refine ⟨?_, ?_⟩
  · intro one hone table call hcall
    rw [helapsed hcall]
    exact htimely.after_since hone
  · intro table
    rw [Journey.calls, List.pairwise_filterMap]
    refine htimely.since_ordered.imp fun hle call hcall later hlater => ?_
    rw [helapsed hcall, helapsed hlater]
    exact hle

/-- A request with a listener of its own, through two tracing layers, hears of an event
after its caller has dropped it. -/
theorem History.hooks_told_elapsed_dropped :
    let outer : HookTable := HookTable.empty.on .dnsStart (.note "outer" .dnsStart)
    let inner : HookTable := (HookTable.empty.on .dnsStart (.note "inner" .dnsStart)).on
      .connectDone (.note "inner" .connectDone)
    let traffic : Traffic :=
      ⟨.start, .ready, [⟨[.trace outer, .inFlight (.probe "busy"), .trace inner], .scripted, 0⟩],
        .empty⟩
    let request : Request := ⟨⟨"GET", by decide⟩, .ofString "/", .none, "",
      some ⟨[.leaf (.probe "own" .everything)]⟩⟩
    let steps : List Traffic.Step :=
      [.advance ⟨3⟩, .call "a" 0 request [.wait ⟨5⟩], .drop "a", .advance ⟨7⟩]
    let here := (History.start traffic).run steps
    (here.traffic.step (.report "a" (.dnsStart "host"))).effects.filter Effect.unlogged
        = [.hear "own" (.dnsStart "host"), .note "outer" .dnsStart (.elapsed ⟨12⟩),
          .note "inner" .dnsStart (.elapsed ⟨12⟩)] ∧
      (here.traffic.step (.report "a" (.connectDone "addr" (some "refused")))).effects.filter
          Effect.unlogged
        = [.hear "own" (.connectDone "addr" (some "refused"))] := by
  intro outer inner traffic request steps here
  have hidle : traffic.exchanges = .empty := rfl
  obtain ⟨hdelivers, -⟩ := History.hooks_told_elapsed hidle steps
  obtain ⟨journey, hcurrent⟩ : ∃ journey, here.current? "a" = some journey := ⟨_, rfl⟩
  refine ⟨?_, ?_⟩
  · rw [(hdelivers.report hcurrent).1]
    cases hcurrent
    rfl
  · rw [(hdelivers.report hcurrent).1]
    cases hcurrent
    rfl

end Telemetry
