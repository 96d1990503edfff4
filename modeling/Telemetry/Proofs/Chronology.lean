/-
The order of time along a history.

No step turns the clock back.  So the events that are reported of a request were
reported one after the other, none before the request was handed in, and the time that
has passed since then is the exact difference of two clock readings: nothing is cut off
at zero.  `Journey.Timely` says so of one journey, and a history keeps it because each
new report is made at the present instant, which no earlier one exceeds.

A request that was handed in is never forgotten either: its exchange stays under its
identifier, also after the caller has dropped it, and so it can always be reported on.
-/
import Telemetry.Proofs.Dispatch

namespace Telemetry

/-! ### What no step does to traffic -/

theorem Traffic.now_le_step (traffic : Traffic) (step : Step) :
    traffic.now ≤ (traffic.step step).traffic.now := by
  have hstay : traffic.now ≤ traffic.now := Nat.le_refl _
  cases hid : step.id? with
  | none =>
      obtain ⟨d, rfl⟩ | ⟨readiness, rfl⟩ | ⟨place, rfl⟩ | ⟨place, rfl⟩ | ⟨place, rfl⟩ :=
        Step.free hid
      · exact Instant.le_after traffic.now d
      · exact hstay
      · cases hplace : traffic.services[place]? with
        | none => simp only [step, hplace]; exact hstay
        | some service => rw [step_ready hplace]; exact hstay
      · cases hplace : traffic.services[place]? with
        | none => simp only [step, hplace]; exact hstay
        | some service => simp only [step, hplace]; exact hstay
      · exact hstay
  | some id =>
      rcases traffic.step_kept hid with ⟨place, request, moments, rfl⟩ | hsame | ⟨exchange, hkeep⟩
      · cases hplace : traffic.services[place]? with
        | none => rw [step_call_noService hplace]; exact hstay
        | some service => rw [step_call hplace]; exact Moment.le_finish traffic.now moments
      · rw [hsame]
        exact hstay
      · rw [hkeep]
        exact hstay

/-- Exchanges are added and replaced, but none is taken away. -/
theorem Traffic.exchange_kept (traffic : Traffic) (step : Step) {id : String}
    (hsome : (traffic.exchanges.get? id).isSome) :
    ((traffic.step step).traffic.exchanges.get? id).isSome := by
  have hinsert : ∀ (other : String) (exchange : Exchange),
      ((traffic.exchanges.insert other exchange).get? id).isSome := by
    intro other exchange
    rw [Table.get?_insert]
    by_cases hid : other = id
    · rw [if_pos hid]
      rfl
    · rw [if_neg hid]
      exact hsome
  cases hid : step.id? with
  | none =>
      rw [(step_free traffic hid).2]
      exact hsome
  | some other =>
      rcases traffic.step_kept hid with ⟨place, request, moments, rfl⟩ | hsame | ⟨exchange, hkeep⟩
      · cases hplace : traffic.services[place]? with
        | none => rw [step_call_noService hplace]; exact hsome
        | some service => rw [step_call hplace]; exact hinsert other _
      · rw [hsame]
        exact hsome
      · rw [hkeep]
        exact hinsert other exchange

/-- The events that some moments report are reported while the moments last. -/
theorem Moment.timeline_within (t : Instant) (moments : List Moment) :
    ∀ one ∈ Moment.timeline t moments, t ≤ one.1 ∧ one.1 ≤ Moment.finish t moments := by
  induction moments generalizing t with
  | nil => exact fun _ h => absurd h (List.not_mem_nil)
  | cons moment rest ih =>
      cases moment with
      | wait d =>
          intro one hone
          obtain ⟨hfrom, hto⟩ := ih (t.after d) one hone
          exact ⟨Nat.le_trans (Instant.le_after t d) hfrom, hto⟩
      | report event =>
          intro one hone
          rcases List.mem_cons.mp hone with rfl | hrest
          · exact ⟨Nat.le_refl _, Moment.le_finish t rest⟩
          · exact ih t one hrest

theorem Moment.timeline_ordered (t : Instant) (moments : List Moment) :
    (Moment.timeline t moments).Pairwise fun one later => one.1 ≤ later.1 := by
  induction moments generalizing t with
  | nil => exact List.Pairwise.nil
  | cons moment rest ih =>
      cases moment with
      | wait d => exact ih (t.after d)
      | report event =>
          refine List.Pairwise.cons ?_ (ih t)
          intro later hlater
          exact (timeline_within t rest later hlater).1

/-! ### The reports of a journey are in order -/

/-- The events reported of a request up to now are in the order of time. -/
structure Journey.Timely (now : Instant) (journey : Journey) : Prop where
  started : journey.start ≤ now
  within : ∀ one ∈ journey.reports, journey.start ≤ one.1 ∧ one.1 ≤ now
  ordered : journey.reports.Pairwise fun one later => one.1 ≤ later.1

namespace Journey.Timely

variable {now : Instant} {journey : Journey}

theorem later (htimely : journey.Timely now) {t : Instant} (hle : now ≤ t) :
    journey.Timely t where
  started := Nat.le_trans htimely.started hle
  within one hone :=
    ⟨(htimely.within one hone).1, Nat.le_trans (htimely.within one hone).2 hle⟩
  ordered := htimely.ordered

theorem see (htimely : journey.Timely now) (sight : Sight) : (journey.see sight).Timely now :=
  ⟨htimely.started, htimely.within, htimely.ordered⟩

/-- A report that is made now comes last. -/
theorem hear (htimely : journey.Timely now) (event : Event) :
    (journey.hear (now, event)).Timely now := by
  refine ⟨htimely.started, ?_, ?_⟩
  · intro one hone
    rcases List.mem_append.mp hone with hold | hnew
    · exact htimely.within one hold
    · rw [List.mem_singleton.mp hnew]
      exact ⟨htimely.started, Nat.le_refl _⟩
  · refine List.pairwise_append.mpr ⟨htimely.ordered, List.pairwise_singleton _ _, ?_⟩
    intro one hone later hlater
    rw [List.mem_singleton.mp hlater]
    exact (htimely.within one hone).2

/-- The time since the request was handed in leads from then to the report. -/
theorem after_since (htimely : journey.Timely now) {one : Instant × Event}
    (hone : one ∈ journey.reports) :
    journey.start.after (one.1.since journey.start) = one.1 :=
  Instant.after_since (htimely.within one hone).1

/-- Of two reports, the later one comes after at least as much time. -/
theorem since_ordered (htimely : journey.Timely now) :
    journey.reports.Pairwise fun one later =>
      one.1.since journey.start ≤ later.1.since journey.start :=
  htimely.ordered.imp fun hle => Nat.sub_le_sub_right hle journey.start.nanos

end Journey.Timely

/-! ### What is known of a request after its next step -/

namespace History

variable {history : History} {id : String}

theorem current?_call {place : Nat} {service : Service}
    (hservice : history.traffic.services[place]? = some service) (request : Request)
    (moments : List Moment) :
    (history.next (.call id place request moments)).current? id
      = some ⟨id, service.stack, request, history.traffic.now, [],
          Moment.timeline history.traffic.now moments⟩ := by
  simp [current?, next, record, hservice]

theorem current?_look {journey : Journey} {seen : Http.Progress}
    (hcurrent : history.current? id = some journey)
    (hreply : (history.traffic.step (.look id)).reply = .progress seen) :
    (history.next (.look id)).current? id = some (journey.see (history.traffic.now, seen)) := by
  have hrecord : history.record (.look id)
      = Journey.revise id (Journey.see (history.traffic.now, seen)) history.journeys := by
    simp only [record, hreply]
  rw [current?, next, hrecord, find_revise (Journey.keeps_see _), if_pos rfl]
  exact congrArg _ hcurrent

theorem current?_report {journey : Journey} {event : Event} {listening : Bool}
    (hcurrent : history.current? id = some journey)
    (hreply : (history.traffic.step (.report id event)).reply = .flag listening) :
    (history.next (.report id event)).current? id
      = some (journey.hear (history.traffic.now, event)) := by
  have hrecord : history.record (.report id event)
      = Journey.revise id (Journey.hear (history.traffic.now, event)) history.journeys := by
    simp only [record, hreply]
  rw [current?, next, hrecord, find_revise (Journey.keeps_hear _), if_pos rfl]
  exact congrArg _ hcurrent

end History

/-! ### A history keeps the reports in order -/

namespace History

/-- What a step can make of the journeys: it leaves one as it was, adds a look or a report
to it, at the present instant, or it sets one out. -/
theorem record_cases {history : History} {step : Traffic.Step} {journey : Journey}
    (hmem : journey ∈ history.record step) :
    (∃ old ∈ history.journeys, journey = old ∨
      (∃ seen, journey = old.see (history.traffic.now, seen)) ∨
      ∃ event, journey = old.hear (history.traffic.now, event)) ∨
    ∃ id place request moments service, step = .call id place request moments ∧
      history.traffic.services[place]? = some service ∧
      journey = ⟨id, service.stack, request, history.traffic.now, [],
        Moment.timeline history.traffic.now moments⟩ := by
  have hold : journey ∈ history.journeys → ∃ old ∈ history.journeys, journey = old ∨
      (∃ seen, journey = old.see (history.traffic.now, seen)) ∨
      ∃ event, journey = old.hear (history.traffic.now, event) :=
    fun h => ⟨journey, h, .inl rfl⟩
  cases hid : step.id? with
  | none =>
      rw [record_free _ hid] at hmem
      exact .inl (hold hmem)
  | some id =>
      obtain ⟨place, request, moments, rfl⟩ | ⟨result, rfl⟩ | rfl | rfl | ⟨event, rfl⟩ :=
        Traffic.Step.about hid
      · cases hplace : history.traffic.services[place]? with
        | none =>
            simp only [record, hplace] at hmem
            exact .inl (hold hmem)
        | some service =>
            simp only [record, hplace] at hmem
            rcases List.mem_cons.mp hmem with hnew | hrest
            · exact .inr ⟨id, place, request, moments, service, rfl, hplace, hnew⟩
            · exact .inl (hold hrest)
      · exact .inl (hold hmem)
      · simp only [record] at hmem
        cases hreply : (history.traffic.step (.look id)).reply with
        | progress seen =>
            rw [hreply] at hmem
            obtain ⟨old, hmember, hsame | hseen⟩ := mem_revise hmem
            · exact .inl ⟨old, hmember, .inl hsame⟩
            · exact .inl ⟨old, hmember, .inr (.inl ⟨seen, hseen⟩)⟩
        | done | flag | index | readiness | reached | gone | noService =>
            rw [hreply] at hmem
            exact .inl (hold hmem)
      · exact .inl (hold hmem)
      · simp only [record] at hmem
        cases hreply : (history.traffic.step (.report id event)).reply with
        | flag listening =>
            rw [hreply] at hmem
            obtain ⟨old, hmember, hsame | hheard⟩ := mem_revise hmem
            · exact .inl ⟨old, hmember, .inl hsame⟩
            · exact .inl ⟨old, hmember, .inr (.inr ⟨event, hheard⟩)⟩
        | done | progress | index | readiness | reached | gone | noService =>
            rw [hreply] at hmem
            exact .inl (hold hmem)

theorem timely_next {history : History}
    (htimely : ∀ journey ∈ history.journeys, journey.Timely history.traffic.now)
    (step : Traffic.Step) :
    ∀ journey ∈ (history.next step).journeys,
      journey.Timely (history.next step).traffic.now := by
  intro journey hmem
  have hpassed : history.traffic.now ≤ (history.next step).traffic.now :=
    history.traffic.now_le_step step
  rcases record_cases hmem with ⟨old, hold, rfl | ⟨seen, rfl⟩ | ⟨event, rfl⟩⟩ |
    ⟨id, place, request, moments, service, rfl, hservice, rfl⟩
  · exact (htimely _ hold).later hpassed
  · exact ((htimely old hold).see _).later hpassed
  · exact ((htimely old hold).hear event).later hpassed
  · have hnow : (history.next (.call id place request moments)).traffic.now
        = Moment.finish history.traffic.now moments := by
      rw [next, Traffic.step_call hservice]
      rfl
    rw [hnow]
    exact ⟨Moment.le_finish _ _, Moment.timeline_within _ _, Moment.timeline_ordered _ _⟩

/-- **The events of every request are in the order of time.** -/
theorem timely (traffic : Traffic) (steps : List Traffic.Step) :
    ∀ journey ∈ ((History.start traffic).run steps).journeys,
      journey.Timely ((History.start traffic).run steps).traffic.now :=
  run_keeps (P := fun history => ∀ journey ∈ history.journeys, journey.Timely history.traffic.now)
    (fun _ step h => timely_next h step) (fun _ h => absurd h (List.not_mem_nil)) steps

/-! ### A request is never forgotten -/

/-- Under the identifier of every request that was handed in there is an exchange. -/
def Remembers (history : History) : Prop :=
  ∀ journey ∈ history.journeys, (history.traffic.exchanges.get? journey.id).isSome

theorem Remembers.next {history : History} (hremembers : history.Remembers)
    (step : Traffic.Step) : (history.next step).Remembers := by
  intro journey hmem
  rcases record_cases hmem with ⟨old, hold, rfl | ⟨seen, rfl⟩ | ⟨event, rfl⟩⟩ |
    ⟨id, place, request, moments, service, rfl, hservice, rfl⟩
  · exact Traffic.exchange_kept _ _ (hremembers _ hold)
  · exact Traffic.exchange_kept _ _ (hremembers old hold)
  · exact Traffic.exchange_kept _ _ (hremembers old hold)
  · show ((history.traffic.step _).traffic.exchanges.get? id).isSome
    rw [Traffic.step_call hservice, Traffic.dispatched, Table.get?_insert, if_pos rfl]
    rfl

/-- **A request that was handed in can always be reported on.** -/
theorem remembers (traffic : Traffic) (steps : List Traffic.Step) :
    ((History.start traffic).run steps).Remembers :=
  run_keeps (P := Remembers) (fun _ step h => h.next step)
    (fun _ h => absurd h (List.not_mem_nil)) steps

end History

end Telemetry
