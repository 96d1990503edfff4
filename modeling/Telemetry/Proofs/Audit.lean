/-
The log agrees with what was done.

Whatever a layer does for a request is one `Entry`: either something that the log says
nothing of, or a note in the log with the deed that the note announces right behind it, or
a note alone.  `Journey.entered?` is what a layer should enter when the request is looked at,
and `Journey.reportEntries` what listeners should enter when an event is reported;
`History.Audits` says that the effects of every step are these entries, in order and with
nothing in between, and that no other step has any effects.

Two statements follow.  Along a whole run, no hook is called and nothing is recorded without
the note that announces it right in front, and no announcement stands alone: `Announced`.
And over the whole life of a request, a recording layer writes one note about it at most,
which is settled by the first result that a look has shown: `Journey.Noted`.

How long the transport's future takes and what it does on its own makes no difference:
`Journey.along` puts the same entries behind what any future does.
-/
import Telemetry.Proofs.Pairing
import Telemetry.Proofs.Recording
import Telemetry.Proofs.Timing

namespace Telemetry

/-! ### Entries -/

/-- One thing that is done for a request, with what the log says of it. -/
inductive Entry
  | raised (sink : GaugeSink)
  | lowered (sink : GaugeSink)
  /-- A listener that shows events has shown one. -/
  | shown (listener : String) (event : Event)
  /-- A response was recorded. -/
  | recorded (recorder : Recorder) (order : LabelOrder) (status : Http.Status) (method : String)
    (elapsed : Duration)
  /-- A request failed and was not recorded. -/
  | unrecorded (method : String)
  /-- A hook was called for a phase. -/
  | timed (phase : Phase) (hook : Hook) (elapsed : Duration)
  /-- A phase ended in failure and was not timed. -/
  | untimed (phase : Phase) (error : String)
deriving DecidableEq

/-- The effects of an entry: what is announced stands right behind its note. -/
def Entry.effects : Entry → List Effect
  | raised sink => [.raise sink]
  | lowered sink => [.lower sink]
  | shown listener event => [.hear listener event]
  | recorded recorder order status method elapsed =>
    [.log (.recording status method elapsed),
     recorder.record (order.values status.text method) elapsed]
  | unrecorded method => [.log (.notRecorded method)]
  | timed phase hook elapsed =>
    [.log (.lifecycle phase elapsed), hook.call (.elapsed elapsed)]
  | untimed phase error => [.log (.lifecycleFailed phase error)]

/-- The entry of a timer for an event of a request that was handed in at `start`.  A phase
that may fail and did is noted whatever hooks there are; any other is if it has a hook. -/
def HookTable.entered? (start : Instant) (one : Instant × Event) (table : HookTable) :
    Option Entry :=
  match one.2.failure with
  | some error => if one.2.phase ∈ Phase.fallible then some (.untimed one.2.phase error) else none
  | none => (table.call? start one).map fun call => .timed one.2.phase call.hook call.elapsed

/-- The entry of a listener for an event. -/
def Leaf.entered? (one : Instant × Event) : Leaf → Option Entry
  | probe name attention => if attention.notices one.2.phase then some (.shown name one.2) else none
  | timer hooks start => hooks.entered? start one

namespace Journey

/-- The entry of a layer for one more look at a request.  A recording is settled by the
first look that shows a result, a gauge is lowered by the first that shows a response. -/
def entered? (journey : Journey) (sight : Sight) : Layer → Option Entry
  | .inFlight sink =>
    if sight.isAnswer && !journey.answered then some (.lowered sink) else none
  | .record recorder order =>
    if journey.settled?.isSome then none
    else match sight.2 with
      | .pending => none
      | .answered response =>
        some (.recorded recorder order response.status journey.method
          (sight.1.since journey.start))
      | .failed _ => some (.unrecorded journey.method)
  | .trace _ => none

/-- The entries for a report: those of the listeners that the request brought along, and
then those of the tracing layers, outermost first. -/
def reportEntries (journey : Journey) (one : Instant × Event) : List Entry :=
  journey.request.leaves.filterMap (Leaf.entered? one)
    ++ (journey.stack.filterMap Layer.hooks?).filterMap (HookTable.entered? journey.start one)

/-- All that a layer itself has done for the request, in order. -/
def life (journey : Journey) (layer : Layer) : List Effect :=
  layer.share journey.start journey.method journey.sights

/-- What a layer has written to the log about the request. -/
def messages (journey : Journey) (layer : Layer) : List String :=
  ((journey.life layer).filterMap Effect.logRecord?).map LogRecord.message

/-- The effects of some looks at any future: each look's own, and then the entries of the
layers, innermost first. -/
def along (journey : Journey) : List (Outcome Http.Progress) → List Effect
  | [] => []
  | look :: rest =>
    look.effects
      ++ (journey.stack.reverse.filterMap (journey.entered? (look.now, look.value))).flatMap
        Entry.effects
      ++ along (journey.see (look.now, look.value)) rest

/-- What a recording layer has written to the log and done about a request. -/
structure Noted (journey : Journey) (recorder : Recorder) (order : LabelOrder) : Prop where
  once : (journey.messages (.record recorder order)).length ≤ 1
  /-- The one note stands where the recorder was used. -/
  recorded : "Recording response" ∈ journey.messages (.record recorder order) ↔
    ∃ values elapsed, recorder.record values elapsed ∈ journey.life (.record recorder order)
  /-- It was used for the first result, right behind the note and with what the note says. -/
  answered : ∀ {now : Instant} {response : Http.Response},
    journey.settled? = some (now, .answered response) →
      journey.life (.record recorder order)
        = (Entry.recorded recorder order response.status journey.method
            (now.since journey.start)).effects
  /-- The other note stands where the first result was a failure. -/
  failed : "Request failed; not recorded" ∈ journey.messages (.record recorder order) ↔
    ∃ now error, journey.settled? = some (now, .failed error)

end Journey

/-- In a history, the next step has the effects of its entries, and no others. -/
structure History.Audits (history : History) : Prop where
  /-- While a request is handed in, the gauges are raised, and then events are heard. -/
  call : ∀ {id : String} {place : Nat} {service : Service} {request : Request}
    {moments : List Moment}, history.traffic.services[place]? = some service →
      ∃ journey, (history.next (.call id place request moments)).current? id = some journey ∧
        journey.stack = service.stack ∧ journey.request = request ∧
        journey.start = history.traffic.now ∧
        journey.reports = Moment.timeline history.traffic.now moments ∧
        (∀ recorder order, journey.life (.record recorder order) = []) ∧
        (history.traffic.step (.call id place request moments)).effects
          = ((service.stack.filterMap Layer.gauge?).map Entry.raised
            ++ journey.reports.flatMap journey.reportEntries).flatMap Entry.effects
  /-- A look goes through the layers from the inside out, and each adds its entry, if it
  makes one, to what it has done so far. -/
  look : ∀ {id : String} {journey : Journey} {seen : Http.Progress},
    history.current? id = some journey →
    (history.traffic.step (.look id)).reply = .progress seen →
      let sight := (history.traffic.now, seen)
      (history.traffic.step (.look id)).effects
        = (journey.stack.reverse.filterMap (journey.entered? sight)).flatMap Entry.effects ∧
      (history.next (.look id)).current? id = some (journey.see sight) ∧
      ∀ layer, (journey.see sight).life layer
        = journey.life layer ++ (journey.entered? sight layer).toList.flatMap Entry.effects
  /-- A report is heard, and nothing else is done. -/
  report : ∀ {id : String} {journey : Journey} {event : Event},
    history.current? id = some journey →
      (history.traffic.step (.report id event)).effects
        = (journey.reportEntries (history.traffic.now, event)).flatMap Entry.effects ∧
      (history.next (.report id event)).current? id
        = some (journey.hear (history.traffic.now, event))
  /-- No other step does anything, in particular no drop. -/
  otherwise : ∀ {step : Traffic.Step},
    (∀ id place request moments service, step = .call id place request moments →
      history.traffic.services[place]? ≠ some service) →
    (∀ id seen, step = .look id → (history.traffic.step step).reply ≠ .progress seen) →
    (∀ id event, step = .report id event → history.current? id = none) →
      (history.traffic.step step).effects = [] ∧ (history.next step).journeys = history.journeys

/-! ### What announces what -/

/-- Whether an effect uses a recorder or calls a hook. -/
def Effect.invokes : Effect → Bool
  | count .. | observe .. | note .. => true
  | raise _ | lower _ | hear .. | log _ => false

/-- Whether a note announces an effect: the recording of a response of that status, to a
request of that method and after that time, or a hook that is called with that time. -/
def LogRecord.Announces (record : LogRecord) (effect : Effect) : Prop :=
  match record with
  | recording status method elapsed => ∃ (recorder : Recorder) (order : LabelOrder),
    effect = recorder.record (order.values status.text method) elapsed
  | lifecycle _ elapsed => ∃ hook : Hook, effect = hook.call (.elapsed elapsed)
  | validated _ | tracing _ | lifecycleFailed .. | notRecorded _ => False

/-- The messages of the notes that announce something. -/
def LogRecord.announcing : List String := ["Recording response", "Lifecycle event"]

/-- In some effects, what is announced stands right behind its note and the other way round. -/
structure Announced (effects : List Effect) : Prop where
  /-- Nothing is recorded and no hook called without a note right in front. -/
  noted : ∀ {front : List Effect} {effect : Effect} {back : List Effect},
    effects = front ++ effect :: back → effect.invokes = true →
      ∃ earlier record, front = earlier ++ [.log record] ∧ record.Announces effect
  /-- No announcement stands without what it announces. -/
  done : ∀ {front : List Effect} {record : LogRecord} {back : List Effect},
    effects = front ++ .log record :: back → record.message ∈ LogRecord.announcing →
      ∃ effect later, back = effect :: later ∧ record.Announces effect

namespace Announced

theorem nil : Announced [] := by
  constructor
  · intro front effect back hsplit
    simp at hsplit
  · intro front record back hsplit
    simp at hsplit

/-- An effect of which the log says nothing, or a note that announces nothing. -/
theorem cons {effect : Effect} {rest : List Effect} (hquiet : effect.invokes = false)
    (hmute : ∀ record, effect = .log record → record.message ∉ LogRecord.announcing)
    (hrest : Announced rest) : Announced (effect :: rest) := by
  constructor
  · intro front other back hsplit hinvokes
    cases front with
    | nil =>
        cases hsplit
        rw [hquiet] at hinvokes
        cases hinvokes
    | cons first front =>
        obtain ⟨rfl, hback⟩ := List.cons.inj hsplit
        obtain ⟨earlier, record, rfl, hannounces⟩ := hrest.noted hback hinvokes
        exact ⟨effect :: earlier, record, rfl, hannounces⟩
  · intro front record back hsplit hannouncing
    cases front with
    | nil =>
        cases hsplit
        exact absurd hannouncing (hmute record rfl)
    | cons first front =>
        obtain ⟨rfl, hback⟩ := List.cons.inj hsplit
        exact hrest.done hback hannouncing

/-- A note with what it announces. -/
theorem pair {record : LogRecord} {effect : Effect} {rest : List Effect}
    (hannounces : record.Announces effect) (hdeed : effect.logRecord? = none)
    (hrest : Announced rest) : Announced (.log record :: effect :: rest) := by
  constructor
  · intro front other back hsplit hinvokes
    rcases front with _ | ⟨first, _ | ⟨second, front⟩⟩
    · cases hsplit
      cases hinvokes
    · cases hsplit
      exact ⟨[], record, rfl, hannounces⟩
    · obtain ⟨rfl, htail⟩ := List.cons.inj hsplit
      obtain ⟨rfl, hback⟩ := List.cons.inj htail
      obtain ⟨earlier, other, rfl, hother⟩ := hrest.noted hback hinvokes
      exact ⟨.log record :: effect :: earlier, other, rfl, hother⟩
  · intro front other back hsplit hannouncing
    rcases front with _ | ⟨first, _ | ⟨second, front⟩⟩
    · cases hsplit
      exact ⟨effect, rest, rfl, hannounces⟩
    · cases hsplit
      cases hdeed
    · obtain ⟨rfl, htail⟩ := List.cons.inj hsplit
      obtain ⟨rfl, hback⟩ := List.cons.inj htail
      exact hrest.done hback hannouncing

/-- Entries announce what they do. -/
theorem entries (entries : List Entry) : Announced (entries.flatMap Entry.effects) := by
  induction entries with
  | nil => exact nil
  | cons entry rest ih =>
      rw [List.flatMap_cons]
      cases entry with
      | raised | lowered | shown => exact cons rfl (fun _ h => nomatch h) ih
      | recorded recorder order status method elapsed =>
          exact pair ⟨recorder, order, rfl⟩ (by cases recorder <;> rfl) ih
      | timed phase hook elapsed => exact pair ⟨hook, rfl⟩ (by cases hook <;> rfl) ih
      | unrecorded method =>
          refine cons rfl (fun record h => ?_) ih
          cases h
          simp [LogRecord.message, LogRecord.announcing]
      | untimed phase error =>
          refine cons rfl (fun record h => ?_) ih
          cases h
          simp [LogRecord.message, LogRecord.announcing]

end Announced

/-! ### What layers and listeners do is their entry -/

theorem flatMap_entries {α : Type} (entered? : α → Option Entry) (l : List α) :
    l.flatMap (fun a => (entered? a).toList.flatMap Entry.effects)
      = (l.filterMap entered?).flatMap Entry.effects := by
  induction l with
  | nil => rfl
  | cons a rest ih =>
      rw [List.flatMap_cons, ih]
      cases hentry : entered? a <;> simp [hentry]

theorem Leaf.heard_entry (one : Instant × Event) (leaf : Leaf) :
    leaf.heard one.2 one.1 = (leaf.entered? one).toList.flatMap Entry.effects := by
  cases leaf with
  | probe name attention =>
      rw [heard, entered?]
      cases attention.notices one.2.phase <;> rfl
  | timer hooks start =>
      rw [heard, entered?, HookTable.entered?]
      cases hfailure : one.2.failure with
      | some error =>
          have hfallible : one.2.phase ∈ Phase.fallible :=
            Event.fallible_of_failure (by rw [hfailure]; rfl)
          simp [hfallible, Entry.effects]
      | none => cases hhook : hooks.hook? one.2.phase <;>
          simp [HookTable.call?, hfailure, hhook, Entry.effects]

namespace Journey

variable (journey : Journey)

theorem heard_entries (one : Instant × Event) :
    (journey.request.leaves.flatMap (Leaf.heard one.2 one.1)
      ++ (journey.stack.filterMap Layer.hooks?).flatMap fun hooks =>
        Leaf.heard one.2 one.1 (.timer hooks journey.start))
      = (journey.reportEntries one).flatMap Entry.effects := by
  rw [reportEntries, List.flatMap_append, ← flatMap_entries, ← flatMap_entries]
  congr 1
  · exact List.flatMap_congr fun leaf _ => leaf.heard_entry one
  · exact List.flatMap_congr fun hooks _ => Leaf.heard_entry one (.timer hooks journey.start)

theorem settled?_isSome : journey.settled?.isSome = !journey.sights.all Sight.isPending := by
  rw [settled?, List.isSome_find?, List.not_all_eq_any_not]

/-- What a layer does about one more look is its entry. -/
theorem round_entry (sight : Sight) (layer : Layer) :
    (journey.round sight).share layer
      = (journey.entered? sight layer).toList.flatMap Entry.effects := by
  cases layer with
  | inFlight sink =>
      rw [round_inFlight, entered?]
      cases sight.isAnswer && !journey.answered <;> rfl
  | record recorder order =>
      rw [round_record, entered?, settled?_isSome]
      obtain ⟨now, seen⟩ := sight
      cases journey.sights.all Sight.isPending <;> cases seen <;> rfl
  | trace hooks => rfl

theorem round_entries (sight : Sight) (layers : List Layer) :
    layers.flatMap (journey.round sight).share
      = (layers.filterMap (journey.entered? sight)).flatMap Entry.effects := by
  rw [← flatMap_entries]
  exact List.flatMap_congr fun layer _ => journey.round_entry sight layer

/-- One more look adds its entry to what a layer has done. -/
theorem life_see (sight : Sight) (layer : Layer) :
    (journey.see sight).life layer
      = journey.life layer ++ (journey.entered? sight layer).toList.flatMap Entry.effects := by
  rw [← round_entry]
  cases layer <;>
    simp [life, round, see, method, Layer.share, Layer.onSight, Layer.stages, Stage.story_append,
      Stage.story]

/-! ### What is noted over the life of a request -/

theorem life_record (recorder : Recorder) (order : LabelOrder) :
    journey.life (.record recorder order)
      = match journey.settled? with
        | some (now, .answered response) =>
          (Entry.recorded recorder order response.status journey.method
            (now.since journey.start)).effects
        | some (_, .failed _) => (Entry.unrecorded journey.method).effects
        | _ => [] := by
  rw [life, share_record]
  cases journey.settled? with
  | none => rfl
  | some first =>
      obtain ⟨now, seen⟩ := first
      cases seen <;> rfl

theorem messages_record (recorder : Recorder) (order : LabelOrder) :
    journey.messages (.record recorder order)
      = match journey.settled? with
        | some (_, .answered _) => ["Recording response"]
        | some (_, .failed _) => ["Request failed; not recorded"]
        | _ => [] := by
  rw [messages, life_record]
  cases journey.settled? with
  | none => rfl
  | some first =>
      obtain ⟨now, seen⟩ := first
      cases seen with
      | pending => rfl
      | failed error => rfl
      | answered response => cases recorder <;> rfl

/-- A recording layer notes once what becomes of its recording. -/
theorem noted (recorder : Recorder) (order : LabelOrder) : journey.Noted recorder order := by
  have hlogged : ∀ values elapsed record, recorder.record values elapsed ≠ .log record := by
    intro values elapsed record
    cases recorder <;> exact nofun
  constructor
  case once =>
    rw [messages_record]
    split <;> simp
  case recorded =>
    rw [messages_record, life_record]
    split
    case h_1 now response hsettled =>
      exact ⟨fun _ => ⟨_, _, List.mem_cons_of_mem _ (List.mem_singleton.mpr rfl)⟩,
        fun _ => List.mem_singleton.mpr rfl⟩
    case h_2 now error hsettled => simp [Entry.effects, hlogged]
    case h_3 => simp
  case answered =>
    intro now response hsettled
    rw [life_record, hsettled]
  case failed =>
    rw [messages_record]
    cases hsettled : journey.settled? with
    | none => simp
    | some first =>
        obtain ⟨now, seen⟩ := first
        cases seen <;> simp

/-! ### Any future -/

/-- Whatever the looks at a future do on their own, the layers add their entries. -/
theorem lookEach_entries (looked : List (Timed Http.Progress)) (t : Instant) :
    ((Stage.lookEach looked journey.stages).run t).effects
      = journey.along (Timed.outcomes looked t) := by
  induction looked generalizing journey t with
  | nil => rfl
  | cons work rest ih =>
      have hstages : journey.stages.map (fun stage => stage.after (work.run t).value)
          = (journey.see ((work.run t).now, (work.run t).value)).stages :=
        (journey.stages_see ((work.run t).now, (work.run t).value)).symm
      have hlooked := journey.looked ((work.run t).now, (work.run t).value)
      rw [Round.effects, round_entries] at hlooked
      rw [Timed.outcomes, along, ← ih, ← hstages]
      simp only [Stage.lookEach, Timed.run_bind, Stage.look_run, Timed.run_pure, List.append_nil,
        hlooked]
      rfl

end Journey

/-! ### Every step has the effects of its entries -/

namespace History

variable {history : History}

/-- A step is a call that reaches a transport, a look that shows something or a report of a
request that there is, or else it does nothing and leaves all journeys as they are. -/
theorem step_cases (history : History) (step : Traffic.Step) :
    (∃ id place request moments service, step = .call id place request moments ∧
      history.traffic.services[place]? = some service) ∨
    (∃ id exchange seen, step = .look id ∧
      history.traffic.exchanges.get? id = some exchange ∧
      (history.traffic.step step).reply = .progress seen) ∨
    (∃ id exchange event, step = .report id event ∧
      history.traffic.exchanges.get? id = some exchange) ∨
    ((history.traffic.step step).effects = [] ∧ history.record step = history.journeys) := by
  cases hid : step.id? with
  | none =>
      exact .inr (.inr (.inr ⟨(Traffic.step_free history.traffic hid).1, history.record_free hid⟩))
  | some id =>
      obtain ⟨place, request, moments, rfl⟩ | ⟨result, rfl⟩ | rfl | rfl | ⟨event, rfl⟩ :=
        Traffic.Step.about hid
      · cases hservice : history.traffic.services[place]? with
        | none =>
            refine .inr (.inr (.inr ⟨?_, by simp only [record, hservice]⟩))
            rw [Traffic.step_call_noService hservice]
            rfl
        | some service => exact .inl ⟨id, place, request, moments, service, rfl, hservice⟩
      · refine .inr (.inr (.inr ⟨?_, rfl⟩))
        cases hexchange : history.traffic.exchanges.get? id with
        | none => rw [Traffic.step_settle_gone hexchange]; rfl
        | some exchange => rw [Traffic.step_settle hexchange]; rfl
      · cases hstages : (history.traffic.exchanges.get? id).bind Exchange.stages with
        | none =>
            have hstep := Traffic.step_look_gone hstages
            refine .inr (.inr (.inr ⟨by rw [hstep]; rfl, ?_⟩))
            simp only [record, hstep, Traffic.Stepped.quiet]
        | some stages =>
            obtain ⟨exchange, hexchange, hsome⟩ := Option.bind_eq_some_iff.mp hstages
            exact .inr (.inl ⟨id, exchange, exchange.result, rfl, hexchange,
              by rw [Traffic.step_look hexchange hsome]⟩)
      · refine .inr (.inr (.inr ⟨?_, rfl⟩))
        cases hexchange : history.traffic.exchanges.get? id with
        | none => rw [Traffic.step_drop_gone hexchange]; rfl
        | some exchange => rw [Traffic.step_drop hexchange]; rfl
      · cases hexchange : history.traffic.exchanges.get? id with
        | none =>
            have hstep := Traffic.step_report_gone hexchange event
            refine .inr (.inr (.inr ⟨by rw [hstep]; rfl, ?_⟩))
            simp only [record, hstep, Traffic.Stepped.quiet]
        | some exchange => exact .inr (.inr (.inl ⟨id, exchange, event, rfl, hexchange⟩))

theorem Faithful.audits (hfaithful : history.Faithful) (hremembers : history.Remembers) :
    history.Audits := by
  constructor
  case call =>
    intro id place service request moments hservice
    let journey : Journey := ⟨id, service.stack, request, history.traffic.now, [],
      Moment.timeline history.traffic.now moments⟩
    refine ⟨journey, current?_call hservice request moments, rfl, rfl, rfl, rfl, fun _ _ => rfl, ?_⟩
    have hraised : (service.stack.filterMap Layer.gauge?).map Effect.raise
        = ((service.stack.filterMap Layer.gauge?).map Entry.raised).flatMap Entry.effects := by
      rw [List.flatMap_map, List.map_eq_flatMap]
      rfl
    rw [hfaithful.inOrder.call hservice, List.flatMap_append, hraised, List.flatMap_assoc]
    congr 2
    funext one
    exact journey.heard_entries one
  case look =>
    intro id journey seen hcurrent hreply
    refine ⟨?_, current?_look hcurrent hreply, fun layer => journey.life_see _ layer⟩
    rw [hfaithful.look_effects hcurrent hreply, Journey.round_entries]
  case report =>
    intro id journey event hcurrent
    have hmem : journey ∈ history.journeys := List.mem_of_find?_eq_some hcurrent
    have hid : journey.id = id := by simpa using List.find?_some hcurrent
    obtain ⟨exchange, hexchange⟩ := Option.isSome_iff_exists.mp (hid ▸ hremembers journey hmem)
    have hreply : (history.traffic.step (.report id event)).reply
        = .flag exchange.trace.isSome := by rw [Traffic.step_report hexchange event]
    refine ⟨?_, current?_report hcurrent hreply⟩
    rw [hfaithful.inOrder.report hcurrent hreply]
    exact journey.heard_entries (history.traffic.now, event)
  case otherwise =>
    intro step hcall hlook hreport
    obtain ⟨id, place, request, moments, service, rfl, hservice⟩ |
      ⟨id, exchange, seen, rfl, -, hreply⟩ | ⟨id, exchange, event, rfl, hexchange⟩ | hnothing :=
      history.step_cases step
    · exact absurd hservice (hcall id place request moments service rfl)
    · exact absurd hreply (hlook id seen rfl)
    · obtain ⟨journey, hcurrent, -⟩ := hfaithful.current hexchange
      rw [hreport id event rfl] at hcurrent
      cases hcurrent
    · exact hnothing

/-- The effects of a step are those of some entries. -/
theorem Faithful.step_entries (hfaithful : history.Faithful) (hremembers : history.Remembers)
    (step : Traffic.Step) :
    ∃ entries : List Entry,
      (history.traffic.step step).effects = entries.flatMap Entry.effects := by
  have haudits := hfaithful.audits hremembers
  obtain ⟨id, place, request, moments, service, rfl, hservice⟩ |
    ⟨id, exchange, seen, rfl, hexchange, hreply⟩ | ⟨id, exchange, event, rfl, hexchange⟩ |
    ⟨hnone, -⟩ := history.step_cases step
  · obtain ⟨journey, -, -, -, -, -, -, heffects⟩ := haudits.call hservice
    exact ⟨_, heffects⟩
  · obtain ⟨journey, hcurrent, -⟩ := hfaithful.current hexchange
    exact ⟨_, (haudits.look hcurrent hreply).1⟩
  · obtain ⟨journey, hcurrent, -⟩ := hfaithful.current hexchange
    exact ⟨_, (haudits.report hcurrent).1⟩
  · exact ⟨[], hnone⟩

/-- A history that has only had the effects of entries. -/
structure Entered (history : History) : Prop where
  faithful : history.Faithful
  remembers : history.Remembers
  entries : ∃ entries : List Entry, history.effects = entries.flatMap Entry.effects

theorem Entered.next (hentered : history.Entered) (step : Traffic.Step) :
    (history.next step).Entered := by
  obtain ⟨hfaithful, hremembers, front, hfront⟩ := hentered
  obtain ⟨back, hback⟩ := hfaithful.step_entries hremembers step
  refine ⟨hfaithful.next step, hremembers.next step, front ++ back, ?_⟩
  rw [History.next, hfront, hback, List.flatMap_append]

theorem entered {traffic : Traffic} (hidle : traffic.exchanges = .empty)
    (steps : List Traffic.Step) : ((History.start traffic).run steps).Entered :=
  run_keeps (P := Entered) (fun _ step h => h.next step)
    ⟨Faithful.start hidle, fun _ h => absurd h (List.not_mem_nil), [], rfl⟩ steps

end History

/--
**The log agrees with what was done.**

Whatever steps idle traffic has taken, the next one has the effects of its entries and no
others, and along all steps so far each use of a recorder and each call of a hook stood
right behind the one note that announces it.  A recording layer has noted about each
request at most once what became of it: that it recorded the response, if that was the
first result to be seen, or that it recorded nothing, if that was a failure.  The same
entries stand behind the looks at any future.
-/
theorem History.log_agrees {traffic : Traffic} (hidle : traffic.exchanges = .empty)
    (steps : List Traffic.Step) :
    let here := (History.start traffic).run steps
    here.Audits ∧ Announced here.effects ∧
    (∀ journey ∈ here.journeys, ∀ recorder order, .record recorder order ∈ journey.stack →
      journey.Noted recorder order) ∧
    ∀ (journey : Journey) (looked : List (Timed Http.Progress)) (t : Instant),
      ((Stage.lookEach looked journey.stages).run t).effects
        = journey.along (Timed.outcomes looked t) := by
  intro here
  have hentered : here.Entered := History.entered hidle steps
  refine ⟨hentered.faithful.audits hentered.remembers, ?_,
    fun journey _ recorder order _ => journey.noted recorder order, Journey.lookEach_entries⟩
  obtain ⟨entries, hentries⟩ := hentered.entries
  rw [hentries]
  exact Announced.entries entries

/-- A counted response after an event with a hook, and a failure that has no hook. -/
theorem History.log_agrees_counted :
    let sink : CounterSink := .probe "seen" ["code"]
    let order : LabelOrder := ⟨[.code], by decide⟩
    let hooks : HookTable := HookTable.empty.on .dnsStart (.note "hooked" .dnsStart)
    let traffic : Traffic :=
      ⟨.start, .ready, [⟨[.record (.count sink) order, .trace hooks], .scripted, 0⟩], .empty⟩
    let request : Request := ⟨⟨"GET", by decide⟩, .ofString "/", .none, "", none⟩
    let response : Http.Response := ⟨⟨503, by decide, by decide⟩, .none, ""⟩
    let steps : List Traffic.Step :=
      [.call "a" 0 request [.wait ⟨5⟩, .report (.dnsStart "host")], .look "a",
        .settle "a" (.answered response), .advance ⟨7⟩]
    let here := (History.start traffic).run steps
    traffic.exchanges = .empty ∧
    here.effects = [.log (.lifecycle .dnsStart ⟨5⟩), .note "hooked" .dnsStart (.elapsed ⟨5⟩)] ∧
    Announced here.effects ∧
    (here.traffic.step (.look "a")).effects
      = [.log (.recording ⟨503, by decide, by decide⟩ "get" ⟨12⟩), .count sink ["503"]] ∧
    (here.traffic.step (.report "a" (.connectDone "addr" (some "refused")))).effects
      = [.log (.lifecycleFailed .connectDone "refused")] := by
  intro sink order hooks traffic request response steps here
  have hidle : traffic.exchanges = .empty := rfl
  obtain ⟨haudits, hannounced, -⟩ := History.log_agrees hidle steps
  obtain ⟨journey, hcurrent⟩ : ∃ journey, here.current? "a" = some journey := ⟨_, rfl⟩
  refine ⟨hidle, rfl, hannounced, ?_, ?_⟩
  · have hreply : (here.traffic.step (.look "a")).reply = .progress (.answered response) := rfl
    rw [(haudits.look hcurrent hreply).1]
    cases hcurrent
    decide
  · rw [(haudits.report hcurrent).1]
    cases hcurrent
    rfl

end Telemetry
