/-
What the connection machinery reports about a request.

A lifecycle event is a phase together with what is known at that point.  Three
events report how something ended, and these may report a failure; no other event
can fail.
-/
import Telemetry.Phase
import Telemetry.Time

namespace Telemetry

/-- A lifecycle event of one request. -/
inductive Event
  /-- A connection was obtained: whether it had served a request before, whether it
  came from the idle pool, and how long it had been idle. -/
  | gotConn (reused wasIdle : Bool) (idle : Duration)
  | putIdleConn (failure : Option String)
  | gotFirstResponseByte
  | got100Continue
  | dnsStart (host : String)
  | dnsDone (addresses : List String)
  | connectStart (address : String)
  | connectDone (address : String) (failure : Option String)
  | tlsHandshakeStart
  | tlsHandshakeDone (failure : Option String)
  | wroteHeaders
  | wait100Continue
  | wroteRequest
deriving DecidableEq

namespace Event

/-- The phase that the event reports. -/
def phase : Event → Phase
  | gotConn .. => .gotConn
  | putIdleConn _ => .putIdleConn
  | gotFirstResponseByte => .gotFirstResponseByte
  | got100Continue => .got100Continue
  | dnsStart _ => .dnsStart
  | dnsDone _ => .dnsDone
  | connectStart _ => .connectStart
  | connectDone .. => .connectDone
  | tlsHandshakeStart => .tlsHandshakeStart
  | tlsHandshakeDone _ => .tlsHandshakeDone
  | wroteHeaders => .wroteHeaders
  | wait100Continue => .wait100Continue
  | wroteRequest => .wroteRequest

/-- The failure that the event reports, if it reports one. -/
def failure : Event → Option String
  | putIdleConn failure => failure
  | connectDone _ failure => failure
  | tlsHandshakeDone failure => failure
  | _ => none

/-! ### Each phase has its kind of event -/

/-- The kinds of events are those of the phases, in the order of the phases. -/
theorem index_phase (event : Event) : event.phase.index.val = event.ctorIdx := by
  cases event <;> rfl

/-- Three kinds of events can carry a failure, and they report the one they carry. -/
theorem failure_eq_some_iff (event : Event) (error : String) :
    event.failure = some error ↔
      event = .putIdleConn (some error) ∨ (∃ address, event = .connectDone address (some error)) ∨
        event = .tlsHandshakeDone (some error) := by
  cases event <;> simp [failure]

/-- A failure is reported of no other phases than those that may end in one. -/
theorem fallible_of_failure {event : Event} (hfailure : event.failure.isSome) :
    event.phase ∈ Phase.fallible := by
  obtain ⟨error, herror⟩ := Option.isSome_iff_exists.mp hfailure
  rcases (failure_eq_some_iff event error).mp herror with rfl | ⟨address, rfl⟩ | rfl <;>
    simp [phase, Phase.fallible]

/-- Every phase is reported by some event without a failure. -/
theorem exists_report (phase : Phase) :
    ∃ event : Event, event.phase = phase ∧ event.failure = none := by
  cases phase with
  | gotConn => exact ⟨.gotConn false false ⟨0⟩, rfl, rfl⟩
  | putIdleConn => exact ⟨.putIdleConn none, rfl, rfl⟩
  | gotFirstResponseByte => exact ⟨.gotFirstResponseByte, rfl, rfl⟩
  | got100Continue => exact ⟨.got100Continue, rfl, rfl⟩
  | dnsStart => exact ⟨.dnsStart "", rfl, rfl⟩
  | dnsDone => exact ⟨.dnsDone [], rfl, rfl⟩
  | connectStart => exact ⟨.connectStart "", rfl, rfl⟩
  | connectDone => exact ⟨.connectDone "" none, rfl, rfl⟩
  | tlsHandshakeStart => exact ⟨.tlsHandshakeStart, rfl, rfl⟩
  | tlsHandshakeDone => exact ⟨.tlsHandshakeDone none, rfl, rfl⟩
  | wroteHeaders => exact ⟨.wroteHeaders, rfl, rfl⟩
  | wait100Continue => exact ⟨.wait100Continue, rfl, rfl⟩
  | wroteRequest => exact ⟨.wroteRequest, rfl, rfl⟩

/-- A phase that may end in failure is reported with any failure. -/
theorem exists_failed_report {phase : Phase} (hphase : phase ∈ Phase.fallible) (error : String) :
    ∃ event : Event, event.phase = phase ∧ event.failure = some error := by
  simp only [Phase.fallible, List.mem_cons, List.not_mem_nil, or_false] at hphase
  rcases hphase with rfl | rfl | rfl
  · exact ⟨.putIdleConn (some error), rfl, rfl⟩
  · exact ⟨.connectDone "" (some error), rfl, rfl⟩
  · exact ⟨.tlsHandshakeDone (some error), rfl, rfl⟩

/-- What the events report, all told: every phase, and a failure of just those phases that
may end in one. -/
theorem exists_report_iff (phase : Phase) (failure : Option String) :
    (∃ event : Event, event.phase = phase ∧ event.failure = failure) ↔
      (failure.isSome → phase ∈ Phase.fallible) := by
  constructor
  · rintro ⟨event, rfl, rfl⟩ hfailure
    exact fallible_of_failure hfailure
  · intro hfallible
    cases failure with
    | none => exact exists_report phase
    | some error => exact exists_failed_report (hfallible rfl) error

end Event

end Telemetry
