/-
Nothing depends on the numbers of metrics.

A metric has a number, under which the store keeps its values, and instrumentation hands
that number on without ever looking at it.  So if the metrics are given other numbers, no
two of them the same one, then in every run the same happens under the new numbers: the
replies, the effects and the traffic that is left are the old ones renamed.

A renaming goes into everything that a metric can be part of: the sinks, the hooks that
observe in them, the timers that hold these hooks, the traces that hold the timers, and so
on up to services and requests.  Each definition is followed by the lemma that what is made
of a renamed thing is what was made of it, renamed; `Traffic.Renamed.step` puts them
together for a step and `Traffic.Renamed.trail` for a run.
-/
import Mathlib.Logic.Equiv.Defs
import Telemetry.Bundle
import Telemetry.Proofs.Contribution
import Telemetry.Proofs.Dispatch

namespace Telemetry

/-- Other numbers for the metrics of each kind. -/
structure Renaming where
  gauges : Equiv.Perm MetricId
  counters : Equiv.Perm MetricId
  histograms : Equiv.Perm MetricId

variable (ρ : Renaming)

/-! ### Metrics and effects on them -/

/-- The gauge under its other number; what it is remains the same, and so it is with
everything that is renamed below. -/
def Gauge.rename (gauge : Gauge) : Gauge := ⟨ρ.gauges gauge.id⟩

def CounterFamily.rename (family : CounterFamily) : CounterFamily :=
  { family with id := ρ.counters family.id }

def HistogramFamily.rename (family : HistogramFamily) : HistogramFamily :=
  { family with id := ρ.histograms family.id }

def GaugeSink.rename : GaugeSink → GaugeSink
  | gauge one => .gauge (one.rename ρ)
  | probe name => .probe name

def CounterSink.rename : CounterSink → CounterSink
  | family one => .family (one.rename ρ)
  | probe name labels => .probe name labels

def ObserverSink.rename : ObserverSink → ObserverSink
  | family one => .family (one.rename ρ)
  | probe name labels => .probe name labels

/-- The effect on the renamed metric; effects on no stored metric stay as they are. -/
def Effect.rename : Effect → Effect
  | raise sink => .raise (sink.rename ρ)
  | lower sink => .lower (sink.rename ρ)
  | count sink values => .count (sink.rename ρ) values
  | observe sink reading values => .observe (sink.rename ρ) reading values
  | note tag phase reading => .note tag phase reading
  | hear listener event => .hear listener event
  | log record => .log record

/-! ### Hooks and those that hear events -/

def Hook.rename : Hook → Hook
  | note tag phase => .note tag phase
  | observe sink values => .observe (sink.rename ρ) values

theorem Hook.call_rename (hook : Hook) (reading : Reading) :
    (hook.rename ρ).call reading = (hook.call reading).rename ρ := by
  cases hook <;> rfl

namespace HookTable

def rename (table : HookTable) : HookTable := ⟨table.places.map (Option.map (Hook.rename ρ))⟩

@[simp] theorem hook?_rename (table : HookTable) (phase : Phase) :
    (table.rename ρ).hook? phase = (table.hook? phase).map (Hook.rename ρ) := by
  simp [rename, hook?]

theorem rename_on (table : HookTable) (phase : Phase) (hook : Hook) :
    (table.on phase hook).rename ρ = (table.rename ρ).on phase (hook.rename ρ) := by
  simp [rename, on, Vector.map_set]

theorem rename_observing (sink : ObserverSink) :
    (observing sink).rename ρ = observing (sink.rename ρ) := by
  have hempty : empty.rename ρ = empty := by
    simp [rename, empty]
  have hfold : ∀ (phases : List Phase) (table : HookTable),
      (phases.foldl (fun table phase => table.on phase (.observe sink [phase.name])) table).rename ρ
        = phases.foldl (fun table phase => table.on phase (.observe (sink.rename ρ) [phase.name]))
            (table.rename ρ) := by
    intro phases
    induction phases with
    | nil => exact fun table => rfl
    | cons phase rest ih =>
        intro table
        rw [List.foldl_cons, List.foldl_cons, ih, rename_on]
        rfl
  rw [observing, hfold, hempty]
  rfl

end HookTable

namespace Leaf

def rename : Leaf → Leaf
  | probe name attention => .probe name attention
  | timer hooks start => .timer (hooks.rename ρ) start

theorem heard_rename (event : Event) (now : Instant) (leaf : Leaf) :
    (leaf.rename ρ).heard event now = (leaf.heard event now).map (Effect.rename ρ) := by
  cases leaf with
  | probe name attention =>
      cases h : attention.notices event.phase <;> simp [rename, heard, h, Effect.rename]
  | timer hooks start =>
      cases hfailure : event.failure with
      | some error => simp [rename, heard, hfailure, Effect.rename]
      | none =>
          cases hhook : hooks.hook? event.phase with
          | none => simp [rename, heard, hfailure, hhook]
          | some hook => simp [rename, heard, hfailure, hhook, Effect.rename, Hook.call_rename]

end Leaf

namespace Listener

mutual

def rename : Listener → Listener
  | .leaf single => .leaf (single.rename ρ)
  | .group members => .group (renameEach members)

def renameEach : List Listener → List Listener
  | [] => []
  | listener :: rest => listener.rename :: renameEach rest

end

mutual

theorem leaves_rename : ∀ listener : Listener,
    (listener.rename ρ).leaves = listener.leaves.map (Leaf.rename ρ)
  | .leaf single => by rw [rename, leaves, leaves, List.map_singleton]
  | .group members => by rw [rename, leaves, leaves, leavesOfEach_rename members]

theorem leavesOfEach_rename : ∀ listeners : List Listener,
    leavesOfEach (renameEach ρ listeners) = (leavesOfEach listeners).map (Leaf.rename ρ)
  | [] => rfl
  | listener :: rest => by
    rw [renameEach, leavesOfEach, leavesOfEach, List.map_append, leaves_rename listener,
      leavesOfEach_rename rest]

end

theorem renameEach_append (front back : List Listener) :
    renameEach ρ (front ++ back) = renameEach ρ front ++ renameEach ρ back := by
  induction front with
  | nil => rfl
  | cons listener rest ih => rw [List.cons_append, renameEach, renameEach, ih, List.cons_append]

end Listener

def Trace.rename (trace : Trace) : Trace := ⟨Listener.renameEach ρ trace.listeners⟩

namespace Request

def rename (request : Request) : Request :=
  { request with trace := request.trace.map (Trace.rename ρ) }

theorem rename_attach (request : Request) (listener : Listener) :
    (request.attach listener).rename ρ = (request.rename ρ).attach (listener.rename ρ) := by
  cases h : request.trace <;>
    simp [rename, attach, h, Trace.attach, Trace.rename, Trace.empty, Listener.renameEach_append,
      Listener.renameEach]

theorem rename_attachEach (request : Request) (leaves : List Leaf) :
    (request.attachEach leaves).rename ρ
      = (request.rename ρ).attachEach (leaves.map (Leaf.rename ρ)) := by
  induction leaves generalizing request with
  | nil => rfl
  | cons leaf rest ih =>
      have hfirst : (request.attach (.leaf leaf)).rename ρ
          = (request.rename ρ).attach (.leaf (leaf.rename ρ)) := by
        rw [rename_attach, Listener.rename]
      have hrest := ih (request.attach (.leaf leaf))
      rw [hfirst] at hrest
      exact hrest

theorem leaves_rename (request : Request) :
    (request.rename ρ).leaves = request.leaves.map (Leaf.rename ρ) := by
  cases h : request.trace with
  | none => simp [rename, leaves, h]
  | some trace =>
      simp only [rename, leaves, h, Option.map_some, Trace.leaves, Trace.rename]
      exact Listener.leavesOfEach_rename ρ trace.listeners

theorem heard_rename (request : Request) (reported : List (Instant × Event)) :
    (request.rename ρ).heard reported = (request.heard reported).map (Effect.rename ρ) := by
  simp only [heard, leaves_rename, List.map_flatMap, List.flatMap_map, Leaf.heard_rename]

end Request

/-! ### Layers and stages -/

def Recorder.rename : Recorder → Recorder
  | count sink => .count (sink.rename ρ)
  | observe sink => .observe (sink.rename ρ)

theorem Recorder.record_rename (recorder : Recorder) (values : List String) (elapsed : Duration) :
    (recorder.rename ρ).record values elapsed = (recorder.record values elapsed).rename ρ := by
  cases recorder <;> rfl

def Layer.rename : Layer → Layer
  | inFlight gauge => .inFlight (gauge.rename ρ)
  | record recorder order => .record (recorder.rename ρ) order
  | trace hooks => .trace (hooks.rename ρ)

def Recording.rename (recording : Recording) : Recording :=
  { recording with recorder := recording.recorder.rename ρ }

namespace Stage

def rename : Stage → Stage
  | gauge raised => .gauge (raised.map (GaugeSink.rename ρ))
  | recording due => .recording (due.map (Recording.rename ρ))

theorem after_rename (stage : Stage) (seen : Http.Progress) :
    (stage.rename ρ).after seen = (stage.after seen).rename ρ := by
  cases stage <;> cases seen <;> rfl

theorem does_rename (seen : Http.Progress) (now : Instant) (stage : Stage) :
    (stage.rename ρ).does seen now = (stage.does seen now).map (Effect.rename ρ) := by
  cases stage with
  | gauge raised => cases raised <;> cases seen <;> rfl
  | recording due =>
      cases due with
      | none => rfl
      | some due =>
          cases seen <;>
            simp [rename, does, settle, Recording.rename, Effect.rename, Recorder.record_rename]

end Stage

namespace Stack

/-- The stack with the metrics of every layer renamed. -/
def rename (stack : Stack) : Stack := stack.map (Layer.rename ρ)

theorem opening_rename (stack : Stack) :
    (stack.rename ρ).opening = stack.opening.map (Effect.rename ρ) := by
  have hone : ∀ layer : Layer, (layer.rename ρ).opening = layer.opening.map (Effect.rename ρ) := by
    intro layer
    cases layer <;> rfl
  simp only [opening, rename, List.flatMap_map, List.map_flatMap, hone]

theorem timers_rename (start : Instant) (stack : Stack) :
    (stack.rename ρ).timers start = (stack.timers start).map (Leaf.rename ρ) := by
  have hone : ∀ layer : Layer,
      (layer.rename ρ).timers start = (layer.timers start).map (Leaf.rename ρ) := by
    intro layer
    cases layer <;> rfl
  simp only [timers, rename, List.flatMap_map, List.map_flatMap, hone]

theorem stages_rename (start : Instant) (method : String) (stack : Stack) :
    (stack.rename ρ).stages start method = (stack.stages start method).map (Stage.rename ρ) := by
  have hone : ∀ layer : Layer,
      (layer.rename ρ).stages start method = (layer.stages start method).map (Stage.rename ρ) := by
    intro layer
    cases layer <;> rfl
  simp only [stages, rename, List.flatMap_map, List.map_flatMap, hone]

theorem reached_rename (start : Instant) (stack : Stack) (request : Request) :
    (stack.rename ρ).reached start (request.rename ρ) = (stack.reached start request).rename ρ := by
  rw [reached, reached, timers_rename, Request.rename_attachEach]

end Stack

/-! ### Steps of traffic -/

def Service.rename (service : Service) : Service :=
  { service with stack := service.stack.rename ρ }

def Exchange.rename (exchange : Exchange) : Exchange where
  trace := exchange.trace.map (Trace.rename ρ)
  result := exchange.result
  stages := exchange.stages.map (List.map (Stage.rename ρ))

theorem Exchange.leaves_rename (exchange : Exchange) :
    (exchange.rename ρ).leaves = exchange.leaves.map (Leaf.rename ρ) := by
  cases h : exchange.trace with
  | none => simp [rename, leaves, h]
  | some trace =>
      simp only [rename, leaves, h, Option.map_some, Trace.leaves, Trace.rename]
      exact Listener.leavesOfEach_rename ρ trace.listeners

namespace Traffic

/-- The step with the metrics that the request's own listeners observe in renamed. -/
def Step.rename : Step → Step
  | .call id place request moments => .call id place (request.rename ρ) moments
  | step => step

/-- The reply with the metrics that listeners on the request observe in renamed.  What a
look shows has no metrics in it. -/
def Reply.rename : Reply → Reply
  | .reached calls request => .reached calls (request.rename ρ)
  | reply => reply

/-- The other traffic is this one with all metrics renamed. -/
structure Renamed (traffic other : Traffic) : Prop where
  now : other.now = traffic.now
  readiness : other.readiness = traffic.readiness
  services : other.services = traffic.services.map (Service.rename ρ)
  exchanges : ∀ id, other.exchanges.get? id = (traffic.exchanges.get? id).map (Exchange.rename ρ)

/-- The other step came to the same, with all metrics renamed. -/
structure Stepped.Renamed (stepped other : Stepped) : Prop where
  reply : other.reply = stepped.reply.rename ρ
  traffic : stepped.traffic.Renamed ρ other.traffic
  effects : other.effects = stepped.effects.map (Effect.rename ρ)

namespace Renamed

variable {ρ} {traffic other : Traffic}

theorem quiet (h : traffic.Renamed ρ other) (reply : Reply) :
    (Stepped.quiet traffic reply).Renamed ρ (.quiet other (reply.rename ρ)) :=
  ⟨rfl, h, rfl⟩

theorem service? (h : traffic.Renamed ρ other) (place : Nat) :
    other.services[place]? = traffic.services[place]?.map (Service.rename ρ) := by
  rw [h.services, List.getElem?_map]

theorem keep (h : traffic.Renamed ρ other) (id : String) (exchange : Exchange) :
    (traffic.keep id exchange).Renamed ρ (other.keep id (exchange.rename ρ)) := by
  refine ⟨h.now, h.readiness, h.services, fun found => ?_⟩
  simp only [Traffic.keep, Table.get?_insert, h.exchanges]
  by_cases hid : id = found
  · rw [if_pos hid, if_pos hid, Option.map_some]
  · rw [if_neg hid, if_neg hid]

theorem step_call (h : traffic.Renamed ρ other) (id : String) (place : Nat) (request : Request)
    (moments : List Moment) :
    (traffic.step (.call id place request moments)).Renamed ρ
      (other.step (.call id place (request.rename ρ) moments)) := by
  cases hservice : traffic.services[place]? with
  | none =>
      rw [step_call_noService hservice,
        step_call_noService (by rw [h.service?, hservice, Option.map_none])]
      exact h.quiet .noService
  | some service =>
      rw [Traffic.step_call hservice,
        Traffic.step_call (by rw [h.service?, hservice, Option.map_some])]
      have hreached : (service.rename ρ).stack.reached other.now (request.rename ρ)
          = (service.stack.reached traffic.now request).rename ρ := by
        rw [h.now]
        exact Stack.reached_rename ρ traffic.now service.stack request
      have hstages : (service.rename ρ).stack.stages other.now (request.rename ρ).method.label
          = (service.stack.stages traffic.now request.method.label).map (Stage.rename ρ) := by
        rw [h.now]
        exact Stack.stages_rename ρ traffic.now request.method.label service.stack
      have hopening : (service.rename ρ).stack.opening
          = service.stack.opening.map (Effect.rename ρ) := Stack.opening_rename ρ service.stack
      refine ⟨?_, ⟨?_, h.readiness, ?_, fun found => ?_⟩, ?_⟩
      · show Reply.reached _ _ = _
        rw [hreached]
        rfl
      · show Moment.finish other.now moments = Moment.finish traffic.now moments
        rw [h.now]
      · simp only [dispatched, h.services, List.map_set]
        rfl
      · simp only [dispatched, Table.get?_insert, h.exchanges, hreached, hstages]
        by_cases hid : id = found
        · rw [if_pos hid, if_pos hid]
          rfl
        · rw [if_neg hid, if_neg hid]
      · show _ ++ _ = List.map (Effect.rename ρ) (_ ++ _)
        rw [List.map_append, hopening, hreached, Request.heard_rename, h.now]

theorem step_look (h : traffic.Renamed ρ other) (id : String) :
    (traffic.step (.look id)).Renamed ρ (other.step (.look id)) := by
  have hexchange := h.exchanges id
  cases hstages : (traffic.exchanges.get? id).bind Exchange.stages with
  | none =>
      have hother : (other.exchanges.get? id).bind Exchange.stages = none := by
        rw [hexchange]
        cases hfound : traffic.exchanges.get? id with
        | none => rfl
        | some exchange =>
            have hgone : exchange.stages = none := by simpa [hfound] using hstages
            simp [Exchange.rename, hgone]
      rw [step_look_gone hstages, step_look_gone hother]
      exact h.quiet .gone
  | some stages =>
      obtain ⟨exchange, hfound, hsome⟩ := Option.bind_eq_some_iff.mp hstages
      have hotherFound : other.exchanges.get? id = some (exchange.rename ρ) := by
        rw [hexchange, hfound, Option.map_some]
      have hotherSome : (exchange.rename ρ).stages = some (stages.map (Stage.rename ρ)) := by
        rw [Exchange.rename, hsome, Option.map_some]
      rw [Traffic.step_look hfound hsome, Traffic.step_look hotherFound hotherSome]
      refine ⟨rfl, ?_, ?_⟩
      · have hkeep := h.keep id { exchange with
          stages := some (stages.map fun stage => stage.after exchange.result) }
        have hleft : (stages.map (Stage.rename ρ)).map (fun stage => stage.after exchange.result)
            = (stages.map fun stage => stage.after exchange.result).map (Stage.rename ρ) := by
          simp only [List.map_map]
          exact List.map_congr_left fun stage _ => Stage.after_rename ρ stage exchange.result
        have hsame : other.lookedAt id (exchange.rename ρ) (stages.map (Stage.rename ρ))
            = other.keep id (Exchange.rename ρ { exchange with
              stages := some (stages.map fun stage => stage.after exchange.result) }) := by
          simp only [lookedAt, Traffic.keep, Exchange.rename, hleft, Option.map_some]
        rw [hsame]
        exact hkeep
      · simp only [← List.map_reverse, List.flatMap_map, List.map_flatMap, Stage.does_rename,
          h.now]
        rfl

theorem step_report (h : traffic.Renamed ρ other) (id : String) (event : Event) :
    (traffic.step (.report id event)).Renamed ρ (other.step (.report id event)) := by
  cases hfound : traffic.exchanges.get? id with
  | none =>
      rw [step_report_gone hfound,
        step_report_gone (by rw [h.exchanges, hfound, Option.map_none])]
      exact h.quiet .gone
  | some exchange =>
      rw [Traffic.step_report hfound,
        Traffic.step_report (by rw [h.exchanges, hfound, Option.map_some])]
      refine ⟨?_, h, ?_⟩
      · cases htrace : exchange.trace <;> simp [Exchange.rename, htrace, Reply.rename]
      · simp only [Exchange.leaves_rename, List.flatMap_map, List.map_flatMap, Leaf.heard_rename,
          h.now]

theorem step_settle (h : traffic.Renamed ρ other) (id : String) (result : Http.Progress) :
    (traffic.step (.settle id result)).Renamed ρ (other.step (.settle id result)) := by
  cases hfound : traffic.exchanges.get? id with
  | none =>
      rw [step_settle_gone hfound,
        step_settle_gone (by rw [h.exchanges, hfound, Option.map_none])]
      exact h.quiet .gone
  | some exchange =>
      rw [Traffic.step_settle hfound,
        Traffic.step_settle (by rw [h.exchanges, hfound, Option.map_some])]
      exact (h.keep id { exchange with result }).quiet .done

theorem step_drop (h : traffic.Renamed ρ other) (id : String) :
    (traffic.step (.drop id)).Renamed ρ (other.step (.drop id)) := by
  cases hfound : traffic.exchanges.get? id with
  | none =>
      rw [step_drop_gone hfound, step_drop_gone (by rw [h.exchanges, hfound, Option.map_none])]
      exact h.quiet (.flag false)
  | some exchange =>
      rw [Traffic.step_drop hfound,
        Traffic.step_drop (by rw [h.exchanges, hfound, Option.map_some])]
      have hflag : (exchange.rename ρ).stages.isSome = exchange.stages.isSome :=
        Option.isSome_map
      rw [hflag]
      exact (h.keep id { exchange with stages := none }).quiet (.flag exchange.stages.isSome)

theorem step_free (h : traffic.Renamed ρ other) {step : Step} (hfree : step.id? = none) :
    (traffic.step step).Renamed ρ (other.step step) := by
  obtain ⟨d, rfl⟩ | ⟨readiness, rfl⟩ | ⟨place, rfl⟩ | ⟨place, rfl⟩ | ⟨place, rfl⟩ :=
    Step.free hfree
  · refine ⟨rfl, ⟨?_, h.readiness, h.services, h.exchanges⟩, rfl⟩
    exact congrArg (fun now : Instant => now.after d) h.now
  · exact ⟨rfl, ⟨h.now, rfl, h.services, h.exchanges⟩, rfl⟩
  · have hservice := h.service? place
    cases hfound : traffic.services[place]? with
    | none =>
        rw [hfound] at hservice
        simp only [Traffic.step, hfound, hservice, Option.map_none]
        exact h.quiet .noService
    | some service =>
        rw [hfound] at hservice
        rw [step_ready hfound, step_ready hservice]
        have hready : other.transportReady (service.rename ρ).transport
            = traffic.transportReady service.transport := by
          rw [Service.rename]
          cases htransport : service.transport with
          | function => rfl
          | scripted => exact h.readiness
        rw [hready]
        exact h.quiet (.readiness _)
  · have hservice := h.service? place
    have hlength : other.services.length = traffic.services.length := by
      rw [h.services, List.length_map]
    cases hfound : traffic.services[place]? with
    | none =>
        rw [hfound] at hservice
        simp only [Traffic.step, hfound, hservice, Option.map_none]
        exact h.quiet .noService
    | some service =>
        rw [hfound] at hservice
        simp only [Traffic.step, hfound, hservice, Option.map_some, hlength]
        refine ⟨rfl, ⟨h.now, h.readiness, ?_, h.exchanges⟩, rfl⟩
        show other.services ++ [service.rename ρ] = _
        rw [h.services, Stepped.quiet, List.map_append, List.map_singleton]
  · refine ⟨rfl, ⟨h.now, h.readiness, ?_, h.exchanges⟩, rfl⟩
    show other.services.set place ⟨[], .scripted, 0⟩
      = (traffic.services.set place ⟨[], .scripted, 0⟩).map (Service.rename ρ)
    rw [h.services, List.map_set]
    rfl

/-- **A step comes to the same under other numbers.** -/
theorem step (h : traffic.Renamed ρ other) (step : Step) :
    (traffic.step step).Renamed ρ (other.step (step.rename ρ)) := by
  cases step with
  | call id place request moments => exact h.step_call id place request moments
  | settle id result => exact h.step_settle id result
  | look id => exact h.step_look id
  | drop id => exact h.step_drop id
  | report id event => exact h.step_report id event
  | advance | setReadiness | ready | copy | dropService => exact h.step_free rfl

end Renamed

/-! ### Runs of traffic -/

/-- What is to be seen of a step: the reply, and what was done. -/
structure Shown where
  reply : Reply
  effects : List Effect

def Shown.rename (shown : Shown) : Shown :=
  ⟨shown.reply.rename ρ, shown.effects.map (Effect.rename ρ)⟩

/-- What is to be seen of some steps, one after the other. -/
def trail (traffic : Traffic) : List Step → List Shown
  | [] => []
  | step :: rest =>
    ⟨(traffic.step step).reply, (traffic.step step).effects⟩
      :: (traffic.step step).traffic.trail rest

/-- **A run comes to the same under other numbers.** -/
theorem Renamed.trail {ρ : Renaming} {traffic other : Traffic} (h : traffic.Renamed ρ other)
    (steps : List Step) :
    other.trail (steps.map (Step.rename ρ)) = (traffic.trail steps).map (Shown.rename ρ) := by
  induction steps generalizing traffic other with
  | nil => rfl
  | cons step rest ih =>
      have hstep := h.step step
      rw [List.map_cons, Traffic.trail, Traffic.trail, List.map_cons, ih hstep.traffic,
        hstep.reply, hstep.effects]
      rfl

end Traffic

/-! ### What has no part in the renamed metrics stays as it is -/

/-- A hook table is known by its hooks. -/
theorem HookTable.eq_of_hook? {table other : HookTable}
    (h : ∀ phase, table.hook? phase = other.hook? phase) : table = other := by
  obtain ⟨places⟩ := table
  obtain ⟨otherPlaces⟩ := other
  have hplaces : places = otherPlaces := by
    refine Vector.ext fun place hplace => ?_
    have hindex : (⟨place, hplace⟩ : Fin 13) ∈ Phase.all.map Phase.index := by
      rw [Phase.map_index_all]
      exact List.mem_finRange _
    obtain ⟨phase, -, hphase⟩ := List.mem_map.mp hindex
    have hone := h phase
    simp only [hook?, hphase] at hone
    exact hone
  rw [hplaces]

section Unmoved

variable {ρ}

theorem HookTable.Only.rename_eq {table : HookTable}
    (honly : table.Only fun effect => effect.rename ρ = effect) : table.rename ρ = table := by
  refine eq_of_hook? fun phase => ?_
  rw [hook?_rename]
  cases hhook : table.hook? phase with
  | none => rfl
  | some hook =>
      have hcall := honly hhook (.number 0)
      cases hook with
      | note tag phase => rfl
      | observe sink values =>
          have hsink : sink.rename ρ = sink := by
            injection hcall
          simp only [Option.map_some, Hook.rename, hsink]

theorem Layer.Only.rename_eq {layer : Layer}
    (honly : layer.Only fun effect => effect.rename ρ = effect) : layer.rename ρ = layer := by
  cases layer with
  | inFlight gauge =>
      have hraise : Effect.raise (gauge.rename ρ) = .raise gauge := honly.1
      injection hraise with hgauge
      rw [Layer.rename, hgauge]
  | record recorder order =>
      have hrecord : (recorder.record _ _).rename ρ = recorder.record _ _ := honly "" "" ⟨0⟩
      have hrecorder : recorder.rename ρ = recorder := by
        cases recorder with
        | count sink =>
            injection hrecord with hsink
            rw [Recorder.rename, hsink]
        | observe sink =>
            injection hrecord with hsink
            rw [Recorder.rename, hsink]
      rw [Layer.rename, hrecorder]
  | trace hooks => rw [Layer.rename, HookTable.Only.rename_eq honly]

theorem Stack.rename_eq {stack : Stack}
    (honly : ∀ layer ∈ stack, layer.Only fun effect => effect.rename ρ = effect) :
    stack.rename ρ = stack :=
  (List.map_congr_left fun layer hlayer => (honly layer hlayer).rename_eq).trans
    (List.map_id stack)

theorem Leaf.Only.rename_eq {leaf : Leaf}
    (honly : leaf.Only fun effect => effect.rename ρ = effect) : leaf.rename ρ = leaf := by
  cases leaf with
  | probe name attention => rfl
  | timer hooks start => rw [Leaf.rename, HookTable.Only.rename_eq honly]

namespace Listener

mutual

theorem rename_eq : ∀ listener : Listener, (∀ leaf ∈ listener.leaves, leaf.rename ρ = leaf) →
    listener.rename ρ = listener
  | .leaf single => fun h => by
    rw [rename, h single (by rw [leaves]; exact List.mem_singleton_self single)]
  | .group members => fun h => by
    rw [rename, renameEach_eq members fun leaf hleaf => h leaf (by rw [leaves]; exact hleaf)]

theorem renameEach_eq : ∀ listeners : List Listener,
    (∀ leaf ∈ leavesOfEach listeners, leaf.rename ρ = leaf) → renameEach ρ listeners = listeners
  | [] => fun _ => rfl
  | listener :: rest => fun h => by
    have hfirst := rename_eq listener fun leaf hleaf =>
      h leaf (by rw [leavesOfEach]; exact List.mem_append_left _ hleaf)
    have hrest := renameEach_eq rest fun leaf hleaf =>
      h leaf (by rw [leavesOfEach]; exact List.mem_append_right _ hleaf)
    rw [renameEach, hfirst, hrest]

end

end Listener

theorem Request.rename_eq {request : Request}
    (honly : ∀ leaf ∈ request.leaves, leaf.Only fun effect => effect.rename ρ = effect) :
    request.rename ρ = request := by
  obtain ⟨method, uri, headers, body, trace⟩ := request
  cases trace with
  | none => rfl
  | some trace =>
      have hlisteners : Listener.renameEach ρ trace.listeners = trace.listeners :=
        Listener.renameEach_eq trace.listeners fun leaf hleaf => (honly leaf hleaf).rename_eq
      rw [Request.rename, Option.map_some, Trace.rename, hlisteners]

theorem Traffic.rename_steps_eq {steps : List Traffic.Step}
    (honly : ∀ step ∈ steps, ∀ request ∈ step.request?, ∀ leaf ∈ request.leaves,
      leaf.Only fun effect => effect.rename ρ = effect) :
    steps.map (Step.rename ρ) = steps := by
  refine (List.map_congr_left fun step hstep => ?_).trans (List.map_id steps)
  cases step with
  | call id place request moments =>
      rw [Step.rename, Request.rename_eq (honly _ hstep request rfl)]
      rfl
  | _ => rfl

end Unmoved

end Telemetry
