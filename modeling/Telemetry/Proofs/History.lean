/-
What has happened so far, and that it accounts for everything.

A history is traffic together with the journeys of the requests dispatched so far and
with all effects so far.  It is extended step by step, and the journeys are extended
from what a step says on the outside: a call adds one, a look that shows something and a
report each add to the latest journey under their identifier.

Two things hold of a history that began with idle traffic, and `Faithful` says both.
First, an exchange that traffic keeps is told by its journey: the trace on it and the
stages in it are those of the latest journey under its identifier.  This is the
invariant that carries the induction, for the effects of the next look and the next
report are read off the exchange.  Second, all effects so far are, in some order, the
deeds of the journeys, with nothing left over.
-/
import Telemetry.Proofs.Journey

namespace Telemetry

open scoped List

/-- Traffic together with what has happened so far. -/
structure History where
  traffic : Traffic
  /-- The requests dispatched so far, the latest first. -/
  journeys : List Journey
  /-- Everything done so far, in order. -/
  effects : List Effect

/-- Changes the latest journey under an identifier. -/
def Journey.revise (id : String) (change : Journey → Journey) : List Journey → List Journey
  | [] => []
  | journey :: earlier =>
    if journey.id = id then change journey :: earlier
    else journey :: revise id change earlier

namespace History

/-- The history in which nothing has happened yet. -/
def start (traffic : Traffic) : History := ⟨traffic, [], []⟩

/-- The latest journey under an identifier. -/
def current? (history : History) (id : String) : Option Journey :=
  history.journeys.find? fun journey => journey.id = id

/-- The journeys after one more step. -/
def record (history : History) (step : Traffic.Step) : List Journey :=
  match step, (history.traffic.step step).reply with
  | .call id place request moments, _ =>
    match history.traffic.services[place]? with
    | none => history.journeys
    | some service =>
      { id, stack := service.stack, request
        start := history.traffic.now
        sights := []
        reports := Moment.timeline history.traffic.now moments } :: history.journeys
  | .look id, .progress seen =>
    Journey.revise id (Journey.see (history.traffic.now, seen)) history.journeys
  | .report id event, .flag _ =>
    Journey.revise id (Journey.hear (history.traffic.now, event)) history.journeys
  | _, _ => history.journeys

/-- The history after one more step. -/
def next (history : History) (step : Traffic.Step) : History where
  traffic := (history.traffic.step step).traffic
  journeys := history.record step
  effects := history.effects ++ (history.traffic.step step).effects

/-- The history after some more steps. -/
def run (history : History) (steps : List Traffic.Step) : History := steps.foldl next history

/-- What holds at the start and is kept by every step holds after any steps. -/
theorem run_keeps {P : History → Prop} (hnext : ∀ history step, P history → P (history.next step))
    {history : History} (hstart : P history) (steps : List Traffic.Step) : P (history.run steps) := by
  induction steps generalizing history with
  | nil => exact hstart
  | cons step rest ih => exact ih (hnext history step hstart)

/-- What is kept of the requests agrees with what has happened to them. -/
structure Faithful (history : History) : Prop where
  /-- An exchange has the trace and the stages of the latest journey under its identifier. -/
  current : ∀ {id : String} {exchange : Exchange},
    history.traffic.exchanges.get? id = some exchange →
      ∃ journey, history.current? id = some journey ∧
        exchange.trace = journey.reached.trace ∧
        ∀ stages, exchange.stages = some stages → stages = journey.stages
  /-- Everything that was done was done for one of the journeys. -/
  accounted : history.effects ~ history.journeys.flatMap Journey.deeds

/-! ### What a step does to the journeys -/

/-- A step that is about no request leaves all journeys as they are. -/
theorem record_free (history : History) {step : Traffic.Step} (hfree : step.id? = none) :
    history.record step = history.journeys := by
  obtain ⟨d, rfl⟩ | ⟨readiness, rfl⟩ | ⟨place, rfl⟩ | ⟨place, rfl⟩ | ⟨place, rfl⟩ :=
    Traffic.Step.free hfree <;> rfl

/-- A step that is about a request, and not its call, changes at most its journey, and of
that not how it set out. -/
theorem record_kept (history : History) {step : Traffic.Step} {id : String}
    (hid : step.id? = some id) :
    (∃ place request moments, step = .call id place request moments) ∨
    history.record step = history.journeys ∨
    ∃ change, Journey.Keeps change ∧
      history.record step = Journey.revise id change history.journeys := by
  obtain ⟨place, request, moments, rfl⟩ | ⟨result, rfl⟩ | rfl | rfl | ⟨event, rfl⟩ :=
    Traffic.Step.about hid
  · exact .inl ⟨place, request, moments, rfl⟩
  · exact .inr (.inl rfl)
  · right
    simp only [record]
    cases (history.traffic.step (.look id)).reply with
    | progress seen => exact .inr ⟨_, Journey.keeps_see _, rfl⟩
    | done | flag | index | readiness | reached | gone | noService => exact .inl rfl
  · exact .inr (.inl rfl)
  · right
    simp only [record]
    cases (history.traffic.step (.report id event)).reply with
    | flag listening => exact .inr ⟨_, Journey.keeps_hear _, rfl⟩
    | done | progress | index | readiness | reached | gone | noService => exact .inl rfl

/-! ### Changing one journey -/

theorem find_revise {change : Journey → Journey} (hkeeps : Journey.Keeps change)
    (id other : String) (journeys : List Journey) :
    (Journey.revise id change journeys).find? (fun journey => journey.id = other)
      = if id = other then (journeys.find? fun journey => journey.id = id).map change
        else journeys.find? fun journey => journey.id = other := by
  induction journeys with
  | nil => by_cases h : id = other <;> simp [Journey.revise, h]
  | cons journey earlier ih =>
      by_cases hj : journey.id = id
      · rw [Journey.revise, if_pos hj]
        subst hj
        by_cases h : journey.id = other <;> simp [h, hkeeps.id]
      · rw [Journey.revise, if_neg hj]
        by_cases h : id = other
        · subst h
          simpa [hj] using ih
        · rw [if_neg h] at ih ⊢
          rw [List.find?_cons, List.find?_cons, ih]

/-- A change that adds to the deeds of one journey adds as much to the deeds of all. -/
theorem deeds_revise (id : String) {change : Journey → Journey} {journey : Journey}
    {more : List Effect} (hmore : (change journey).deeds ~ journey.deeds ++ more) :
    ∀ {journeys : List Journey},
      journeys.find? (fun journey => journey.id = id) = some journey →
      (Journey.revise id change journeys).flatMap Journey.deeds
        ~ journeys.flatMap Journey.deeds ++ more := by
  intro journeys
  induction journeys with
  | nil => intro h; simp at h
  | cons first earlier ih =>
      intro h
      by_cases hj : first.id = id
      · have hfirst : first = journey := by simpa [hj] using h
        subst hfirst
        simp only [Journey.revise, hj, if_true, List.flatMap_cons]
        calc (change first).deeds ++ earlier.flatMap Journey.deeds
            ~ (first.deeds ++ more) ++ earlier.flatMap Journey.deeds := hmore.append_right _
          _ ~ first.deeds ++ earlier.flatMap Journey.deeds ++ more := by
              rw [List.append_assoc, List.append_assoc]
              exact List.perm_append_comm.append_left _
      · have hrest : earlier.find? (fun journey => journey.id = id) = some journey := by
          simpa [hj] using h
        simp only [Journey.revise, hj, if_false, List.flatMap_cons, List.append_assoc]
        exact (ih hrest).append_left _

/-! ### A faithful history stays faithful -/

namespace Faithful

variable {history : History}

theorem start {traffic : Traffic} (hidle : traffic.exchanges = .empty) :
    (History.start traffic).Faithful := by
  refine ⟨?_, List.Perm.refl _⟩
  intro id exchange hexchange
  have hnone : traffic.exchanges.get? id = none := by rw [hidle]; rfl
  rw [show (History.start traffic).traffic = traffic from rfl, hnone] at hexchange
  cases hexchange

/-- A step that changes nothing. -/
theorem quiet (hfaithful : history.Faithful) (reply : Traffic.Reply) :
    History.Faithful ⟨(Traffic.Stepped.quiet history.traffic reply).traffic, history.journeys,
      history.effects ++ (Traffic.Stepped.quiet history.traffic reply).effects⟩ := by
  refine ⟨hfaithful.current, ?_⟩
  show history.effects ++ [] ~ _
  rw [List.append_nil]
  exact hfaithful.accounted

/-- Keeping an exchange with the same trace, and with the same stages or none. -/
theorem keep (hfaithful : history.Faithful) {id : String} {exchange kept : Exchange}
    (hexchange : history.traffic.exchanges.get? id = some exchange)
    (htrace : kept.trace = exchange.trace)
    (hstages : ∀ stages, kept.stages = some stages → exchange.stages = some stages) :
    History.Faithful ⟨history.traffic.keep id kept, history.journeys, history.effects ++ []⟩ := by
  refine ⟨?_, by simpa using hfaithful.accounted⟩
  intro other found hfound
  simp only [Traffic.keep, Table.get?_insert] at hfound
  by_cases h : id = other
  · subst h
    rw [if_pos rfl] at hfound
    cases hfound
    obtain ⟨journey, hcurrent, hsame, hall⟩ := hfaithful.current hexchange
    exact ⟨journey, hcurrent, htrace.trans hsame, fun stages hs => hall stages (hstages stages hs)⟩
  · rw [if_neg h] at hfound
    exact hfaithful.current hfound

theorem next_call (hfaithful : history.Faithful) (id : String) (place : Nat) (request : Request)
    (moments : List Moment) : (history.next (.call id place request moments)).Faithful := by
  cases hservice : history.traffic.services[place]? with
  | none =>
      have hstep := Traffic.step_call_noService hservice id request moments
      have hrecord : history.record (.call id place request moments) = history.journeys := by
        simp only [record, hservice]
      rw [next, hstep, hrecord]
      exact hfaithful.quiet _
  | some service =>
      have hstep := Traffic.step_call hservice id request moments
      set journey : Journey :=
        { id, stack := service.stack, request, start := history.traffic.now, sights := []
          reports := Moment.timeline history.traffic.now moments } with hjourney
      have hrecord : history.record (.call id place request moments)
          = journey :: history.journeys := by
        simp only [record, hservice, hjourney]
      have hdeeds : journey.deeds = service.stack.opening
          ++ (service.stack.reached history.traffic.now request).heard
            (Moment.timeline history.traffic.now moments) := by
        have hshare : Layer.share journey.start journey.method journey.sights = Layer.opening := by
          funext layer
          cases layer <;> rfl
        rw [Journey.deeds, Journey.recorded, hshare]
        rfl
      rw [next, hstep, hrecord]
      refine ⟨?_, ?_⟩
      · intro other found hfound
        simp only [Traffic.dispatched, Table.get?_insert] at hfound
        by_cases h : id = other
        · subst h
          rw [if_pos rfl] at hfound
          cases hfound
          refine ⟨journey, by simp [current?, hjourney], rfl, ?_⟩
          intro stages hs
          cases hs
          -- Before the first look, every stage is as its layer made it.
          exact (List.map_id _).symm
        · rw [if_neg h] at hfound
          obtain ⟨old, hcurrent, hsame⟩ := hfaithful.current hfound
          have hne : ¬ journey.id = other := h
          exact ⟨old, by simpa [current?, hne] using hcurrent, hsame⟩
      · rw [List.flatMap_cons, hdeeds]
        exact List.perm_append_comm.trans (hfaithful.accounted.append_left _)

theorem next_look (hfaithful : history.Faithful) (id : String) :
    (history.next (.look id)).Faithful := by
  cases hstages : (history.traffic.exchanges.get? id).bind Exchange.stages with
  | none =>
      have hstep := Traffic.step_look_gone hstages
      have hrecord : history.record (.look id) = history.journeys := by
        simp only [record, hstep, Traffic.Stepped.quiet]
      rw [next, hstep, hrecord]
      exact hfaithful.quiet _
  | some stages =>
      obtain ⟨exchange, hexchange, hsome⟩ := Option.bind_eq_some_iff.mp hstages
      have hstep := Traffic.step_look hexchange hsome
      have hrecord : history.record (.look id) = Journey.revise id
          (Journey.see (history.traffic.now, exchange.result)) history.journeys := by
        simp only [record, hstep]
      obtain ⟨journey, hcurrent, htrace, hall⟩ := hfaithful.current hexchange
      have hsame : stages = journey.stages := hall stages hsome
      rw [next, hstep, hrecord]
      refine ⟨?_, ?_⟩
      · intro other found hfound
        simp only [Traffic.lookedAt, Table.get?_insert] at hfound
        have hfind := find_revise
          (Journey.keeps_see (history.traffic.now, exchange.result)) id other history.journeys
        by_cases h : id = other
        · subst h
          rw [if_pos rfl] at hfound hfind
          cases hfound
          refine ⟨journey.see (history.traffic.now, exchange.result), ?_, htrace, ?_⟩
          · have hj : history.journeys.find? (fun journey => journey.id = id) = some journey :=
              hcurrent
            rw [current?, hfind, hj]
            rfl
          · intro left hleft
            cases hleft
            rw [Journey.stages_see, hsame]
        · rw [if_neg h] at hfound hfind
          obtain ⟨old, hold, hrest⟩ := hfaithful.current hfound
          exact ⟨old, by rw [current?, hfind]; exact hold, hrest⟩
      · have hlook : stages.reverse.flatMap (Stage.does exchange.result history.traffic.now)
            ~ journey.stages.flatMap (Stage.does exchange.result history.traffic.now) := by
          rw [hsame]
          exact (List.reverse_perm journey.stages).flatMap_right _
        have hdeeds := deeds_revise id
          ((journey.deeds_see (history.traffic.now, exchange.result)).trans
            (hlook.symm.append_left _)) hcurrent
        exact (hfaithful.accounted.append_right _).trans hdeeds.symm

theorem next_report (hfaithful : history.Faithful) (id : String) (event : Event) :
    (history.next (.report id event)).Faithful := by
  cases hexchange : history.traffic.exchanges.get? id with
  | none =>
      have hstep := Traffic.step_report_gone hexchange event
      have hrecord : history.record (.report id event) = history.journeys := by
        simp only [record, hstep, Traffic.Stepped.quiet]
      rw [next, hstep, hrecord]
      exact hfaithful.quiet _
  | some exchange =>
      obtain ⟨journey, hcurrent, htrace, hall⟩ := hfaithful.current hexchange
      have hstep := Traffic.step_report hexchange event
      rw [Exchange.leaves_eq htrace] at hstep
      have hrecord : history.record (.report id event) = Journey.revise id
          (Journey.hear (history.traffic.now, event)) history.journeys := by
        simp only [record, hstep]
      rw [next, hstep, hrecord]
      refine ⟨?_, ?_⟩
      · intro other found hfound
        have hfind := find_revise (Journey.keeps_hear (history.traffic.now, event)) id other
          history.journeys
        obtain ⟨old, hold, hsame, hrest⟩ := hfaithful.current hfound
        by_cases h : id = other
        · subst h
          rw [if_pos rfl] at hfind
          have hj : history.journeys.find? (fun journey => journey.id = id) = some old := hold
          exact ⟨old.hear (history.traffic.now, event), by rw [current?, hfind, hj]; rfl,
            hsame, hrest⟩
        · rw [if_neg h] at hfind
          exact ⟨old, by rw [current?, hfind]; exact hold, hsame, hrest⟩
      · have hdeeds := deeds_revise id
          (List.Perm.of_eq (journey.deeds_hear (history.traffic.now, event))) hcurrent
        exact (hfaithful.accounted.append_right _).trans hdeeds.symm

theorem next_free (hfaithful : history.Faithful) {step : Traffic.Step} (hfree : step.id? = none) :
    (history.next step).Faithful := by
  obtain ⟨heffects, hexchanges⟩ := Traffic.step_free history.traffic hfree
  have hrecord := history.record_free hfree
  refine ⟨?_, ?_⟩
  · intro id exchange hfound
    have hsame : history.traffic.exchanges.get? id = some exchange := by
      rw [← hexchanges]
      exact hfound
    obtain ⟨journey, hcurrent, hrest⟩ := hfaithful.current hsame
    refine ⟨journey, ?_, hrest⟩
    show (history.record step).find? _ = some journey
    rw [hrecord]
    exact hcurrent
  · show history.effects ++ (history.traffic.step step).effects
      ~ (history.record step).flatMap Journey.deeds
    rw [heffects, hrecord, List.append_nil]
    exact hfaithful.accounted

theorem next (hfaithful : history.Faithful) (step : Traffic.Step) :
    (history.next step).Faithful := by
  cases hid : step.id? with
  | none => exact hfaithful.next_free hid
  | some id =>
      obtain ⟨place, request, moments, rfl⟩ | ⟨result, rfl⟩ | rfl | rfl | ⟨event, rfl⟩ :=
        Traffic.Step.about hid
      · exact hfaithful.next_call id place request moments
      · cases hexchange : history.traffic.exchanges.get? id with
        | none =>
            rw [History.next, Traffic.step_settle_gone hexchange]
            exact hfaithful.quiet _
        | some exchange =>
            rw [History.next, Traffic.step_settle hexchange]
            exact hfaithful.keep hexchange rfl fun _ hs => hs
      · exact hfaithful.next_look id
      · cases hexchange : history.traffic.exchanges.get? id with
        | none =>
            rw [History.next, Traffic.step_drop_gone hexchange]
            exact hfaithful.quiet _
        | some exchange =>
            rw [History.next, Traffic.step_drop hexchange]
            exact hfaithful.keep hexchange rfl fun _ hs => by cases hs
      · exact hfaithful.next_report id event

/-- **Every history of idle traffic is faithful.** -/
theorem run {traffic : Traffic} (hidle : traffic.exchanges = .empty)
    (steps : List Traffic.Step) : ((History.start traffic).run steps).Faithful :=
  run_keeps (P := History.Faithful) (fun _ step h => h.next step) (Faithful.start hidle) steps

end Faithful

end History

end Telemetry
