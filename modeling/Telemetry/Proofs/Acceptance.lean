/-
Which metrics make a bundle.

Three lists of names have to pass, that of the counters, that of the durations and that of
the events, and they are looked at in this order.  The cause of a refusal is that of the
first list that does not pass: for the first two what is wrong with the first name that
offends, and for the events the whole list.  What the other lists are makes no difference
then.

A check notes in the log what it has accepted, and does nothing else.  A store in which its
effects are made good stays as it is, whether there comes a bundle of it or a refusal.
-/
import Telemetry.Proofs.Lineage
import Telemetry.Proofs.Validation
import Telemetry.Session.Sinks

namespace Telemetry

/-- The log is none of the store's concern. -/
theorem Store.applyAll_log (store : Store) (records : List LogRecord) :
    store.applyAll (records.map .log) = .ok store := by
  induction records with
  | nil => rfl
  | cons record rest ih => exact ih

namespace Bundle

/-! ### Which refusal comes first -/

/-- Why a bundle is refused, given the names of its counters, durations and events. -/
inductive Refused (requests duration events : List String) : LabelError → Prop
  /-- The first name to offend is one of the counters'. -/
  | requests {place : Nat} {cause : LabelError} (first : FirstOffence requests place cause) :
    Refused requests duration events cause
  /-- The counters pass, and the first name to offend is one of the durations'. -/
  | duration {place : Nat} {cause : LabelError} (passed : Declarable requests)
    (first : FirstOffence duration place cause) : Refused requests duration events cause
  /-- Counters and durations pass, and the events are not just the event. -/
  | events (passed : Declarable requests) (passed' : Declarable duration)
    (other : events ≠ ["event"]) : Refused requests duration events (.notEvent events)

variable {inFlight : Gauge} {requests : CounterFamily} {duration events : HistogramFamily}

theorem ofFamilies_requests {cause : LabelError}
    (hrequests : LabelOrder.check requests.names = .error cause) :
    ofFamilies inFlight requests duration events = .error cause := by
  rw [ofFamilies, hrequests]
  rfl

theorem ofFamilies_duration {order : LabelOrder} {cause : LabelError}
    (hrequests : LabelOrder.check requests.names = .ok order)
    (hduration : LabelOrder.check duration.names = .error cause) :
    ofFamilies inFlight requests duration events = .error cause := by
  rw [ofFamilies, hrequests, hduration]
  rfl

/-- Once counters and durations have passed, the events decide. -/
theorem ofFamilies_events {requestsOrder durationOrder : LabelOrder}
    (hrequests : LabelOrder.check requests.names = .ok requestsOrder)
    (hduration : LabelOrder.check duration.names = .ok durationOrder) :
    ofFamilies inFlight requests duration events
      = if events.names = ["event"]
        then .ok ⟨inFlight, requests, requestsOrder, duration, durationOrder,
          .observing (.family events)⟩
        else .error (.notEvent events.names) := by
  have hnames : (ObserverSink.family events).names = events.names := rfl
  rw [ofFamilies, hrequests, hduration, HookTable.observeEvents_eq, hnames]
  by_cases hevents : events.names = ["event"]
  · rw [if_pos hevents, if_pos hevents]
    rfl
  · rw [if_neg hevents, if_neg hevents]
    rfl

/-- Names either pass the check or have a first that offends. -/
theorem check_cases (names : List String) :
    (∃ order, LabelOrder.check names = .ok order ∧ Declarable names) ∨
      ∃ cause place, LabelOrder.check names = .error cause ∧ FirstOffence names place cause := by
  cases hcheck : LabelOrder.check names with
  | ok order => exact .inl ⟨order, rfl, (LabelOrder.check_ok_iff names).mp ⟨order, hcheck⟩⟩
  | error cause =>
      obtain ⟨place, hfirst⟩ := (LabelOrder.check_error_iff names cause).mp hcheck
      exact .inr ⟨cause, place, rfl, hfirst⟩

/-- A metric's names pass, or the bundle is refused: it is one or the other. -/
theorem ofFamilies_cases (inFlight : Gauge) (requests : CounterFamily)
    (duration events : HistogramFamily) :
    (∃ bundle, ofFamilies inFlight requests duration events = .ok bundle ∧
      Declarable requests.names ∧ Declarable duration.names ∧ events.names = ["event"]) ∨
    ∃ cause, ofFamilies inFlight requests duration events = .error cause ∧
      Refused requests.names duration.names events.names cause := by
  rcases check_cases requests.names with
    ⟨requestsOrder, hrequests, hpassed⟩ | ⟨cause, place, hrequests, hfirst⟩
  · rcases check_cases duration.names with
      ⟨durationOrder, hduration, hpassed'⟩ | ⟨cause, place, hduration, hfirst⟩
    · rw [ofFamilies_events hrequests hduration]
      by_cases hevents : events.names = ["event"]
      · rw [if_pos hevents]
        exact .inl ⟨_, rfl, hpassed, hpassed', hevents⟩
      · rw [if_neg hevents]
        exact .inr ⟨_, rfl, .events hpassed hpassed' hevents⟩
    · exact .inr ⟨cause, ofFamilies_duration hrequests hduration, .duration hpassed hfirst⟩
  · exact .inr ⟨cause, ofFamilies_requests hrequests, .requests hfirst⟩

theorem not_declarable {names : List String} {place : Nat} {cause : LabelError}
    (hfirst : FirstOffence names place cause) : ¬ Declarable names := by
  intro hdeclarable
  obtain ⟨name, hname, hoffence⟩ := hfirst.offends
  exact hdeclarable.not_offence hname cause hoffence

/-- Nothing is refused of names that pass. -/
theorem Refused.not_passed {names names' names'' : List String} {cause : LabelError}
    (hrefused : Refused names names' names'' cause) :
    ¬ (Declarable names ∧ Declarable names' ∧ names'' = ["event"]) := by
  rintro ⟨hrequests, hduration, hevents⟩
  cases hrefused with
  | requests first => exact not_declarable first hrequests
  | duration passed first => exact not_declarable first hduration
  | events passed passed' other => exact other hevents

theorem Refused.error {cause : LabelError}
    (hrefused : Refused requests.names duration.names events.names cause) :
    ofFamilies inFlight requests duration events = .error cause := by
  cases hrefused with
  | requests first =>
      exact ofFamilies_requests ((LabelOrder.check_error_iff _ _).mpr ⟨_, first⟩)
  | duration passed first =>
      obtain ⟨order, horder⟩ := LabelOrder.check_declarable passed
      exact ofFamilies_duration horder ((LabelOrder.check_error_iff _ _).mpr ⟨_, first⟩)
  | events passed passed' other =>
      obtain ⟨order, horder⟩ := LabelOrder.check_declarable passed
      obtain ⟨order', horder'⟩ := LabelOrder.check_declarable passed'
      rw [ofFamilies_events horder horder', if_neg other]

/-! ### What there is to know about making a bundle -/

/-- What comes of making a bundle of existing metrics. -/
structure Settled (inFlight : Gauge) (requests : CounterFamily)
    (duration events : HistogramFamily) : Prop where
  /-- It is made just if all names pass. -/
  accepted : (∃ bundle, ofFamilies inFlight requests duration events = .ok bundle) ↔
    (requests.names.Nodup ∧ ∀ name ∈ requests.names, name = "code" ∨ name = "method") ∧
    (duration.names.Nodup ∧ ∀ name ∈ duration.names, name = "code" ∨ name = "method") ∧
    events.names = ["event"]
  /-- Its orders are the declared names, and the rest is what was handed in. -/
  made : ∀ bundle, ofFamilies inFlight requests duration events = .ok bundle →
    bundle.requestsOrder.names = requests.names ∧ bundle.durationOrder.names = duration.names ∧
    bundle.inFlight = inFlight ∧ bundle.requests = requests ∧ bundle.duration = duration ∧
    bundle.hooks = .observing (.family events)
  /-- Otherwise the first names not to pass decide why not. -/
  refused : ∀ cause, ofFamilies inFlight requests duration events = .error cause ↔
    Refused requests.names duration.names events.names cause
  /-- Either way, all that is done is to note what has passed, -/
  run : ∀ now, (assembling inFlight requests duration events).run.run now
    = ⟨ofFamilies inFlight requests duration events, now, (notes requests duration).map .log⟩
  /-- so that no store is changed: no series is new, and no gauge is moved. -/
  untouched : ∀ (now : Instant) (store : Store),
    store.applyAll ((assembling inFlight requests duration events).run.run now).effects
      = .ok store

theorem settled (inFlight : Gauge) (requests : CounterFamily) (duration events : HistogramFamily) :
    Settled inFlight requests duration events := by
  refine ⟨⟨?_, fun hpassed => ?_⟩, ?_, fun cause => ⟨?_, Refused.error⟩,
    run_assembling inFlight requests duration events, fun now store => ?_⟩
  · rintro ⟨bundle, hbundle⟩
    rcases ofFamilies_cases inFlight requests duration events with
      ⟨_, -, hpassed⟩ | ⟨cause, herror, -⟩
    · exact hpassed
    · rw [hbundle] at herror
      cases herror
  · rcases ofFamilies_cases inFlight requests duration events with
      ⟨bundle, hbundle, -⟩ | ⟨cause, -, hrefused⟩
    · exact ⟨bundle, hbundle⟩
    · exact absurd hpassed hrefused.not_passed
  · intro bundle hbundle
    obtain ⟨requestsOrder, durationOrder, hooks, hrequests, hduration, hevents, rfl⟩ :=
      ofFamilies_ok hbundle
    exact ⟨LabelOrder.names_check hrequests, LabelOrder.names_check hduration, rfl, rfl, rfl,
      (HookTable.observeEvents_ok hevents).2⟩
  · intro herror
    rcases ofFamilies_cases inFlight requests duration events with
      ⟨bundle, hbundle, -⟩ | ⟨other, hother, hrefused⟩
    · rw [hbundle] at herror
      cases herror
    · rw [hother] at herror
      cases herror
      exact hrefused
  · rw [run_assembling]
    exact store.applyAll_log _

/-- A session that declares a bundle of metrics declared before keeps all of them as they
are, and its log has what was noted if the bundle was made. -/
theorem declare_families {sinks : Session.Sinks} {place : Nat} {name : String}
    {gauge counters durations lifecycle : String}
    (hgauge : sinks.find Session.Sink.storedGauge? gauge = .ok inFlight)
    (hcounters : sinks.find Session.Sink.storedCounters? counters = .ok requests)
    (hdurations : sinks.find Session.Sink.storedHistograms? durations = .ok duration)
    (hlifecycle : sinks.find Session.Sink.storedHistograms? lifecycle = .ok events) :
    sinks.declare place name (.families gauge counters durations lifecycle)
      = match ofFamilies inFlight requests duration events with
        | .error cause => .error (.sink place cause)
        | .ok bundle => .ok
          { sinks with
            table := sinks.table.insert name (.bundle bundle)
            log := sinks.log ++ notes requests duration } := by
  rw [Session.Sinks.declare, hgauge, hcounters, hdurations, hlifecycle]
  show (match ofFamilies inFlight requests duration events with
    | .error cause => _
    | .ok bundle => _) = _
  cases hmade : ofFamilies inFlight requests duration events with
  | error cause => rfl
  | ok bundle =>
      obtain ⟨requestsOrder, durationOrder, hooks, hrequests, hduration, -, rfl⟩ :=
        ofFamilies_ok hmade
      have hnotes : notes requests duration
          = [.validated requestsOrder, .validated durationOrder] := by
        rw [notes, hrequests]
        simp only [hduration]
      rw [hnotes]

/--
**A bundle is made of the metrics that pass, and nothing is done to them.**

Counters and durations pass if their names are `code` and `method`, none of them twice, and
events if they have the event alone.  If all three pass, the bundle lays values out in the
order of the declared names; if not, the first of them that does not pass says why.  Made or
refused, stores stay as they are; and a session in which the metrics were declared keeps
them, with the notes of the checks in its log if the bundle was made.
-/
theorem ofFamilies_settled (inFlight : Gauge) (requests : CounterFamily)
    (duration events : HistogramFamily) :
    Settled inFlight requests duration events ∧
    ∀ (sinks : Session.Sinks) (place : Nat) (name gauge counters durations lifecycle : String),
      sinks.find Session.Sink.storedGauge? gauge = .ok inFlight →
      sinks.find Session.Sink.storedCounters? counters = .ok requests →
      sinks.find Session.Sink.storedHistograms? durations = .ok duration →
      sinks.find Session.Sink.storedHistograms? lifecycle = .ok events →
      (∀ cause, Refused requests.names duration.names events.names cause →
        sinks.declare place name (.families gauge counters durations lifecycle)
          = .error (.sink place cause)) ∧
      ∀ bundle, ofFamilies inFlight requests duration events = .ok bundle →
        sinks.declare place name (.families gauge counters durations lifecycle)
          = .ok ⟨sinks.inventory, sinks.table.insert name (.bundle bundle),
            sinks.log ++ notes requests duration⟩ := by
  refine ⟨settled inFlight requests duration events, ?_⟩
  intro sinks place name gauge counters durations lifecycle hgauge hcounters hdurations hlifecycle
  have hdeclare := @declare_families inFlight requests duration events sinks place name gauge
    counters durations lifecycle hgauge hcounters hdurations hlifecycle
  refine ⟨fun cause hrefused => ?_, fun bundle hbundle => ?_⟩
  · rw [hdeclare, hrefused.error]
  · rw [hdeclare, hbundle]

/-- In a session, durations and events both have wrong names, and the durations decide. -/
theorem ofFamilies_settled_durations :
    let metrics : List (String × Session.SinkSpec) :=
      [("running", .gauge none), ("answers", .counters none ["method"]),
       ("times", .histograms none ["code", "code", "path"] []),
       ("phases", .histograms none ["phase"] [])]
    ∃ sinks : Session.Sinks, Session.Sinks.empty.declareFrom 0 metrics = .ok sinks ∧
      sinks.declare 4 "client" (.families "running" "answers" "times" "phases")
        = .error (.sink 4 (.duplicate "code")) := by
  intro metrics
  refine ⟨_, rfl, ?_⟩
  obtain ⟨-, hsession⟩ := ofFamilies_settled ⟨0⟩ ⟨1, ["method"]⟩ ⟨2, ["code", "code", "path"], []⟩
    ⟨3, ["phase"], []⟩
  have hmethod : Declarable ["method"] :=
    ⟨by decide, fun name hname => .inr (List.mem_singleton.mp hname)⟩
  have htwice : LabelOrder.check ["code", "code", "path"] = .error (.duplicate "code") := by decide
  obtain ⟨place, hfirst⟩ := (LabelOrder.check_error_iff _ _).mp htwice
  refine (hsession _ 4 "client" "running" "answers" "times" "phases" ?_ ?_ ?_ ?_).1 _
    (.duration hmethod hfirst)
  all_goals rfl

/-- All three have wrong names, and the counters decide. -/
example : ofFamilies ⟨0⟩ ⟨1, ["code", "path"]⟩ ⟨2, ["code", "code"], []⟩ ⟨3, [], []⟩
    = .error (.unsupported "path") := by
  decide

end Bundle

end Telemetry
