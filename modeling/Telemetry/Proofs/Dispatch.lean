/-
Every journey goes through a service.

Steps copy services and drop them, but never take a stack apart: the layers of a service
are those of a service that traffic began with, or it is one that was dropped and has no
layers any more.  A journey went through the layers of some service, with a request that
some step handed in, and keeps both for good.  So whatever holds of the services at the
start and of the requests of all calls holds of all journeys.
-/
import Telemetry.Proofs.History

namespace Telemetry

/-! ### The layers of a service stay together -/

/-- What a step leaves in a service's place are layers that were there before, or none. -/
theorem Traffic.stack_step {traffic : Traffic} {step : Step} {service : Service}
    (hmem : service ∈ (traffic.step step).traffic.services) :
    service.stack = [] ∨ ∃ old ∈ traffic.services, service.stack = old.stack := by
  have hstay : ∀ {services : List Service}, services = traffic.services → service ∈ services →
      service.stack = [] ∨ ∃ old ∈ traffic.services, service.stack = old.stack := by
    intro services heq hservice
    rw [heq] at hservice
    exact .inr ⟨service, hservice, rfl⟩
  cases hid : step.id? with
  | none =>
      obtain ⟨d, rfl⟩ | ⟨readiness, rfl⟩ | ⟨place, rfl⟩ | ⟨place, rfl⟩ | ⟨place, rfl⟩ :=
        Step.free hid
      · exact hstay rfl hmem
      · exact hstay rfl hmem
      · cases hplace : traffic.services[place]? with
        | none => simp only [step, hplace] at hmem; exact hstay rfl hmem
        | some old => rw [step_ready hplace] at hmem; exact hstay rfl hmem
      · cases hplace : traffic.services[place]? with
        | none => simp only [step, hplace] at hmem; exact hstay rfl hmem
        | some old =>
            simp only [step, hplace] at hmem
            rcases List.mem_append.mp hmem with hold | hcopy
            · exact hstay rfl hold
            · rw [List.mem_singleton.mp hcopy]
              exact .inr ⟨old, List.mem_of_getElem? hplace, rfl⟩
      · rcases List.mem_or_eq_of_mem_set hmem with hold | hbare
        · exact hstay rfl hold
        · rw [hbare]
          exact .inl rfl
  | some id =>
      rcases traffic.step_kept hid with ⟨place, request, moments, rfl⟩ | hsame | ⟨exchange, hkeep⟩
      · cases hplace : traffic.services[place]? with
        | none => rw [step_call_noService hplace] at hmem; exact hstay rfl hmem
        | some old =>
            rw [step_call hplace] at hmem
            rcases List.mem_or_eq_of_mem_set hmem with hsame | hcalled
            · exact hstay rfl hsame
            · rw [hcalled]
              exact .inr ⟨old, List.mem_of_getElem? hplace, rfl⟩
      · rw [hsame] at hmem
        exact hstay rfl hmem
      · rw [hkeep] at hmem
        exact hstay rfl hmem

/-! ### A journey keeps its layers and its request -/

theorem mem_revise {id : String} {change : Journey → Journey} {journeys : List Journey}
    {journey : Journey} (hmem : journey ∈ Journey.revise id change journeys) :
    ∃ old ∈ journeys, journey = old ∨ journey = change old := by
  induction journeys with
  | nil => exact absurd hmem (List.not_mem_nil)
  | cons first earlier ih =>
      rw [Journey.revise] at hmem
      by_cases hid : first.id = id
      · rw [if_pos hid] at hmem
        rcases List.mem_cons.mp hmem with hfirst | hrest
        · exact ⟨first, by simp, .inr hfirst⟩
        · exact ⟨journey, by simp [hrest], .inl rfl⟩
      · rw [if_neg hid] at hmem
        rcases List.mem_cons.mp hmem with hfirst | hrest
        · exact ⟨first, by simp, .inl hfirst⟩
        · obtain ⟨old, hold, heq⟩ := ih hrest
          exact ⟨old, by simp [hold], heq⟩

/-- The request that a step hands in, if it hands one in. -/
def Traffic.Step.request? : Traffic.Step → Option Request
  | .call _ _ request _ => some request
  | _ => none

/-- What a step adds to the journeys went through a service, with the step's request;
all else about a journey's way is settled from the start. -/
theorem History.mem_record {history : History} {step : Traffic.Step} {journey : Journey}
    (hmem : journey ∈ history.record step) :
    (∃ old ∈ history.journeys, journey.stack = old.stack ∧ journey.request = old.request) ∨
      journey.request ∈ step.request? ∧
        ∃ service ∈ history.traffic.services, journey.stack = service.stack := by
  have hold : journey ∈ history.journeys →
      ∃ old ∈ history.journeys, journey.stack = old.stack ∧ journey.request = old.request :=
    fun h => ⟨journey, h, rfl, rfl⟩
  cases hid : step.id? with
  | none =>
      rw [record_free _ hid] at hmem
      exact .inl (hold hmem)
  | some id =>
      rcases history.record_kept hid with
        ⟨place, request, moments, rfl⟩ | hsame | ⟨change, hkeeps, hrevise⟩
      · cases hplace : history.traffic.services[place]? with
        | none =>
            simp only [record, hplace] at hmem
            exact .inl (hold hmem)
        | some service =>
            simp only [record, hplace] at hmem
            rcases List.mem_cons.mp hmem with hnew | hrest
            · rw [hnew]
              exact .inr ⟨rfl, service, List.mem_of_getElem? hplace, rfl⟩
            · exact .inl (hold hrest)
      · rw [hsame] at hmem
        exact .inl (hold hmem)
      · rw [hrevise] at hmem
        obtain ⟨old, hmember, hsame | hchanged⟩ := mem_revise hmem
        · exact .inl ⟨old, hmember, by rw [hsame], by rw [hsame]⟩
        · exact .inl ⟨old, hmember, by rw [hchanged, hkeeps.stack],
            by rw [hchanged, hkeeps.request]⟩

/-! ### What holds of all services holds of all journeys -/

/-- What holds of the layers of every service, and of no layers, and of every request
that is handed in, holds of every journey. -/
theorem History.journeys_within {S : Stack → Prop} {R : Request → Prop} (hnil : S [])
    {steps : List Traffic.Step}
    (hcalls : ∀ step ∈ steps, ∀ request ∈ step.request?, R request)
    {traffic : Traffic} (hservices : ∀ service ∈ traffic.services, S service.stack) :
    ∀ journey ∈ ((History.start traffic).run steps).journeys,
      S journey.stack ∧ R journey.request := by
  have hall : ∀ (steps : List Traffic.Step) (history : History),
      (∀ step ∈ steps, ∀ request ∈ step.request?, R request) →
      (∀ service ∈ history.traffic.services, S service.stack) →
      (∀ journey ∈ history.journeys, S journey.stack ∧ R journey.request) →
      ∀ journey ∈ (history.run steps).journeys, S journey.stack ∧ R journey.request := by
    intro steps
    induction steps with
    | nil => exact fun history _ _ hjourneys => hjourneys
    | cons step rest ih =>
        intro history hcalls hservices hjourneys
        refine ih (history.next step) (fun other hother => hcalls other (by simp [hother])) ?_ ?_
        · intro service hmem
          rcases Traffic.stack_step hmem with hbare | ⟨old, hold, hsame⟩
          · rw [hbare]
            exact hnil
          · rw [hsame]
            exact hservices old hold
        · intro journey hmem
          rcases mem_record hmem with ⟨old, hold, hstack, hrequest⟩ |
            ⟨hrequest, service, hservice, hstack⟩
          · rw [hstack, hrequest]
            exact hjourneys old hold
          · rw [hstack]
            exact ⟨hservices service hservice, hcalls step (by simp) _ hrequest⟩
  exact hall steps (History.start traffic) hcalls hservices (fun _ h => absurd h (List.not_mem_nil))

end Telemetry
