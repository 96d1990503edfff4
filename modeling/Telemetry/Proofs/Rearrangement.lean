/-
The order of the layers makes no difference but to the order of effects.

Take some traffic, and let the layers of each of its services change places.  Then let
the same steps happen to both.  The two runs stay alike: the replies are the same but for
the order of the listeners on a request, each layer does the same in each round of each
step, and all effects so far are the same effects in another order, so that stores that
make good on them agree.

The simulation is `Traffic.Alike`.  It does not compare traces and stages, of which it
only asks whether they are there: what they hold is read off the journeys, which are
alike as well, by the fact that both histories are faithful.
-/
import Telemetry.Proofs.Posting
import Telemetry.Proofs.Rounds

namespace Telemetry

open scoped List

/-! ### What is alike -/

/-- Two services that differ in the order of their layers only. -/
structure Service.Alike (service other : Service) : Prop where
  stack : service.stack ~ other.stack
  transport : service.transport = other.transport
  calls : service.calls = other.calls

/-- Two requests that differ in the order of their listeners only. -/
structure Request.Alike (request other : Request) : Prop where
  method : request.method = other.method
  uri : request.uri = other.uri
  headers : request.headers = other.headers
  body : request.body = other.body
  trace : Option.Rel (fun trace other => trace.listeners ~ other.listeners)
    request.trace other.trace

/-- Two replies that are the same but for the order of the listeners on a request. -/
inductive Traffic.Reply.Alike : Traffic.Reply → Traffic.Reply → Prop
  | same (reply : Traffic.Reply) : Alike reply reply
  | reached (calls : Nat) {request other : Request} (h : request.Alike other) :
    Alike (.reached calls request) (.reached calls other)

/-- Two exchanges that show the same and have the same left to show. -/
structure Exchange.Alike (exchange other : Exchange) : Prop where
  result : exchange.result = other.result
  stages : exchange.stages.isSome = other.stages.isSome
  trace : exchange.trace.isSome = other.trace.isSome

/-- Two journeys that went through the same layers, in whatever order. -/
structure Journey.Alike (journey other : Journey) : Prop where
  id : journey.id = other.id
  stack : journey.stack ~ other.stack
  request : journey.request = other.request
  start : journey.start = other.start
  sights : journey.sights = other.sights
  reports : journey.reports = other.reports

/-- Traffic through the same services, but for the order of their layers. -/
structure Traffic.Alike (traffic other : Traffic) : Prop where
  now : traffic.now = other.now
  readiness : traffic.readiness = other.readiness
  services : List.Forall₂ Service.Alike traffic.services other.services
  exchanges : ∀ id,
    Option.Rel Exchange.Alike (traffic.exchanges.get? id) (other.exchanges.get? id)

/-- Two histories of the same steps of such traffic. -/
structure History.Alike (history other : History) : Prop where
  traffic : history.traffic.Alike other.traffic
  journeys : List.Forall₂ Journey.Alike history.journeys other.journeys

/-! ### Requests that went through the same layers -/

theorem Stack.reached_alike {stack other : Stack} (hstack : stack ~ other) (start : Instant)
    (request : Request) :
    (stack.reached start request).Alike (other.reached start request) := by
  have htimers : stack.timers start ~ other.timers start := hstack.flatMap_right _
  simp only [Stack.reached, Request.attachEach_eq]
  refine ⟨rfl, rfl, rfl, rfl, ?_⟩
  by_cases hnone : stack.timers start = []
  · have hother : other.timers start = [] := by
      rw [hnone] at htimers
      exact htimers.nil_eq.symm
    rw [if_pos hnone, if_pos hother]
    cases request.trace with
    | none => exact Option.Rel.none
    | some trace => exact Option.Rel.some (List.Perm.refl _)
  · have hother : other.timers start ≠ [] := by
      intro h
      rw [h] at htimers
      exact hnone htimers.eq_nil
    rw [if_neg hnone, if_neg hother]
    exact Option.Rel.some ((htimers.map _).append_left _)

theorem Request.Alike.trace_isSome {request other : Request} (h : request.Alike other) :
    request.trace.isSome = other.trace.isSome := by
  have htrace := h.trace
  cases hone : request.trace with
  | none =>
      cases hother : other.trace with
      | none => rfl
      | some trace => rw [hone, hother] at htrace; cases htrace
  | some trace =>
      cases hother : other.trace with
      | none => rw [hone, hother] at htrace; cases htrace
      | some trace => rfl

namespace Journey.Alike

variable {journey other : Journey}

theorem see (h : journey.Alike other) (sight : Sight) :
    (journey.see sight).Alike (other.see sight) :=
  { h with sights := by rw [Journey.see, Journey.see, h.sights] }

theorem hear (h : journey.Alike other) (report : Instant × Event) :
    (journey.hear report).Alike (other.hear report) :=
  { h with reports := by rw [Journey.hear, Journey.hear, h.reports] }

theorem method (h : journey.Alike other) : journey.method = other.method := by
  rw [Journey.method, Journey.method, h.request]

theorem round (h : journey.Alike other) (sight : Sight) :
    journey.round sight = other.round sight := by
  rw [Journey.round, Journey.round, h.start, h.method, h.sights]

/-- The same was done for both, if not in the same order. -/
theorem deeds (h : journey.Alike other) : journey.deeds ~ other.deeds := by
  have hrecorded : journey.recorded ~ other.recorded := by
    rw [Journey.recorded, Journey.recorded, h.start, h.method, h.sights]
    exact h.stack.flatMap_right _
  have hleaves : journey.reached.leaves ~ other.reached.leaves := by
    rw [Journey.reached, Journey.reached, Stack.reached, Stack.reached, h.request, h.start,
      Request.leaves_attachEach, Request.leaves_attachEach]
    exact (h.stack.flatMap_right _).append_left _
  have htold : journey.told ~ other.told := by
    rw [Journey.told, Journey.told, Request.heard, Request.heard, h.reports]
    exact List.Perm.flatMap_left _ fun one _ => hleaves.flatMap_right _
  exact hrecorded.append htold

end Journey.Alike

/-- All that was done is the same, if not in the same order. -/
theorem deeds_alike {journeys others : List Journey}
    (h : List.Forall₂ Journey.Alike journeys others) :
    journeys.flatMap Journey.deeds ~ others.flatMap Journey.deeds := by
  induction h with
  | nil => exact List.Perm.refl _
  | cons hone _ ih =>
      rw [List.flatMap_cons, List.flatMap_cons]
      exact hone.deeds.append ih

theorem revise_alike {journeys others : List Journey} {change : Journey → Journey}
    (h : List.Forall₂ Journey.Alike journeys others)
    (hchange : ∀ {journey other : Journey}, journey.Alike other →
      (change journey).Alike (change other)) (id : String) :
    List.Forall₂ Journey.Alike (Journey.revise id change journeys)
      (Journey.revise id change others) := by
  induction h with
  | nil => exact List.Forall₂.nil
  | @cons journey other _ _ hone hrest ih =>
      rw [Journey.revise, Journey.revise, hone.id]
      by_cases hid : other.id = id
      · rw [if_pos hid, if_pos hid]
        exact List.Forall₂.cons (hchange hone) hrest
      · rw [if_neg hid, if_neg hid]
        exact List.Forall₂.cons hone ih

/-! ### One step -/

namespace Traffic.Alike

variable {traffic other : Traffic}

/-- Keeping exchanges that are alike under the same identifier. -/
theorem keep (h : traffic.Alike other) (id : String) {exchange kept : Exchange}
    (hkept : exchange.Alike kept) : (traffic.keep id exchange).Alike (other.keep id kept) := by
  refine { h with exchanges := fun other' => ?_ }
  show Option.Rel Exchange.Alike ((traffic.exchanges.insert id exchange).get? other')
    ((other.exchanges.insert id kept).get? other')
  rw [Table.get?_insert, Table.get?_insert]
  by_cases hid : id = other'
  · rw [if_pos hid, if_pos hid]
    exact Option.Rel.some hkept
  · rw [if_neg hid, if_neg hid]
    exact h.exchanges other'

/-- A step has replies that are alike, and leaves traffic that is alike. -/
theorem step (h : traffic.Alike other) (step : Step) :
    (traffic.step step).reply.Alike (other.step step).reply ∧
      (traffic.step step).traffic.Alike (other.step step).traffic := by
  cases step with
  | advance d =>
      exact ⟨.same _, { h with now := by simp only [Traffic.step, Stepped.quiet, h.now] }⟩
  | setReadiness readiness => exact ⟨.same _, { h with readiness := rfl }⟩
  | ready place =>
      obtain ⟨hone, hother⟩ | ⟨service, service', hone, hother, hservice⟩ :=
        rel_cases (rel_getElem? h.services place)
      · simp only [Traffic.step, hone, hother]
        exact ⟨.same _, h⟩
      · rw [step_ready hone, step_ready hother]
        have hready : traffic.transportReady service.transport
            = other.transportReady service'.transport := by
          rw [hservice.transport]
          cases service'.transport with
          | function => rfl
          | scripted => exact h.readiness
        rw [hready]
        exact ⟨.same _, h⟩
  | copy place =>
      obtain ⟨hone, hother⟩ | ⟨service, service', hone, hother, hservice⟩ :=
        rel_cases (rel_getElem? h.services place)
      · simp only [Traffic.step, hone, hother]
        exact ⟨.same _, h⟩
      · simp only [Traffic.step, hone, hother, h.services.length_eq]
        exact ⟨.same _, { h with
          services := List.rel_append h.services (List.Forall₂.cons hservice List.Forall₂.nil) }⟩
  | dropService place =>
      exact ⟨.same _, { h with services := rel_set h.services ⟨List.Perm.refl _, rfl, rfl⟩ place }⟩
  | call id place request moments =>
      obtain ⟨hone, hother⟩ | ⟨service, service', hone, hother, hservice⟩ :=
        rel_cases (rel_getElem? h.services place)
      · rw [step_call_noService hone, step_call_noService hother]
        exact ⟨.same _, h⟩
      · have hreached := Stack.reached_alike hservice.stack other.now request
        have hcalled : Service.Alike { service with calls := service'.calls + 1 }
            { service' with calls := service'.calls + 1 } :=
          ⟨hservice.stack, hservice.transport, rfl⟩
        rw [step_call hone, step_call hother, dispatched, dispatched, h.now, hservice.calls]
        refine ⟨.reached _ hreached, ?_⟩
        have hmoved : Traffic.Alike
            { traffic with now := Moment.finish other.now moments, services := _ }
            { other with now := Moment.finish other.now moments, services := _ } :=
          { h with now := rfl, services := rel_set h.services hcalled place }
        refine hmoved.keep id ?_
        exact ⟨rfl, rfl, hreached.trace_isSome⟩
  | settle id result =>
      obtain ⟨hone, hother⟩ | ⟨exchange, exchange', hone, hother, hsame⟩ :=
        rel_cases (h.exchanges id)
      · rw [step_settle_gone hone, step_settle_gone hother]
        exact ⟨.same _, h⟩
      · rw [step_settle hone, step_settle hother]
        refine ⟨.same _, h.keep id ?_⟩
        exact ⟨rfl, hsame.stages, hsame.trace⟩
  | look id =>
      obtain ⟨hone, hother⟩ | ⟨exchange, exchange', hone, hother, hsame⟩ :=
        rel_cases (h.exchanges id)
      · rw [step_look_gone (by rw [hone]; rfl), step_look_gone (by rw [hother]; rfl)]
        exact ⟨.same _, h⟩
      · have hstages := hsame.stages
        cases hleft : exchange.stages with
        | none =>
            rw [hleft] at hstages
            have hgone : exchange'.stages = none := Option.isNone_iff_eq_none.mp (by
              rw [← Option.not_isSome, ← hstages]; rfl)
            rw [step_look_gone (by rw [hone]; exact hleft),
              step_look_gone (by rw [hother]; exact hgone)]
            exact ⟨.same _, h⟩
        | some stages =>
            rw [hleft] at hstages
            obtain ⟨stages', hleft'⟩ := Option.isSome_iff_exists.mp hstages.symm
            rw [step_look hone hleft, step_look hother hleft', hsame.result]
            refine ⟨.same _, h.keep id ?_⟩
            exact ⟨hsame.result, rfl, hsame.trace⟩
  | drop id =>
      obtain ⟨hone, hother⟩ | ⟨exchange, exchange', hone, hother, hsame⟩ :=
        rel_cases (h.exchanges id)
      · rw [step_drop_gone hone, step_drop_gone hother]
        exact ⟨.same _, h⟩
      · rw [step_drop hone, step_drop hother, hsame.stages]
        refine ⟨.same _, h.keep id ?_⟩
        exact ⟨hsame.result, rfl, hsame.trace⟩
  | report id event =>
      obtain ⟨hone, hother⟩ | ⟨exchange, exchange', hone, hother, hsame⟩ :=
        rel_cases (h.exchanges id)
      · rw [step_report_gone hone, step_report_gone hother]
        exact ⟨.same _, h⟩
      · rw [step_report hone, step_report hother, hsame.trace]
        exact ⟨.same _, h⟩

end Traffic.Alike

/-! ### One step more of a history -/

namespace History.Alike

variable {history other : History}

theorem current? (h : history.Alike other) (id : String) :
    Option.Rel Journey.Alike (history.current? id) (other.current? id) := by
  have hfind : ∀ {journeys others : List Journey}, List.Forall₂ Journey.Alike journeys others →
      Option.Rel Journey.Alike (journeys.find? fun journey => journey.id = id)
        (others.find? fun journey => journey.id = id) := by
    intro journeys others hall
    induction hall with
    | nil => exact Option.Rel.none
    | @cons journey journey' _ _ hone _ ih =>
        rw [List.find?_cons, List.find?_cons, hone.id]
        by_cases hid : journey'.id = id
        · simpa [hid] using hone
        · simpa [hid] using ih
  exact hfind h.journeys

theorem record (h : history.Alike other) (step : Traffic.Step) :
    List.Forall₂ Journey.Alike (history.record step) (other.record step) := by
  have hreply := (h.traffic.step step).1
  generalize hone : (history.traffic.step step).reply = reply at hreply
  generalize hother : (other.traffic.step step).reply = reply' at hreply
  cases hid : step.id? with
  | none =>
      rw [record_free _ hid, record_free _ hid]
      exact h.journeys
  | some id =>
      obtain ⟨place, request, moments, rfl⟩ | ⟨result, rfl⟩ | rfl | rfl | ⟨event, rfl⟩ :=
        Traffic.Step.about hid
      · obtain ⟨hone, hother⟩ | ⟨service, service', hone, hother, hservice⟩ :=
          rel_cases (rel_getElem? h.traffic.services place)
        · simp only [History.record, hone, hother]
          exact h.journeys
        · simp only [History.record, hone, hother, h.traffic.now]
          exact List.Forall₂.cons ⟨rfl, hservice.stack, rfl, rfl, rfl, rfl⟩ h.journeys
      · exact h.journeys
      · simp only [History.record, hone, hother]
        cases hreply with
        | reached calls hrequest => exact h.journeys
        | same reply =>
            cases reply with
            | progress seen =>
                rw [h.traffic.now]
                exact revise_alike h.journeys (fun hsame => hsame.see _) id
            | done | flag | index | readiness | reached | gone | noService => exact h.journeys
      · exact h.journeys
      · simp only [History.record, hone, hother]
        cases hreply with
        | reached calls hrequest => exact h.journeys
        | same reply =>
            cases reply with
            | flag listening =>
                rw [h.traffic.now]
                exact revise_alike h.journeys (fun hsame => hsame.hear _) id
            | done | progress | index | readiness | reached | gone | noService =>
                exact h.journeys

theorem next (h : history.Alike other) (step : Traffic.Step) :
    (history.next step).Alike (other.next step) :=
  ⟨(h.traffic.step step).2, h.record step⟩

theorem run (h : history.Alike other) (steps : List Traffic.Step) :
    (history.run steps).Alike (other.run steps) := by
  induction steps generalizing history other with
  | nil => exact h
  | cons step rest ih => exact ih (h.next step)

/-! ### In both histories the layers do the same -/

/-- The rounds of a step do not depend on the order of the layers. -/
theorem rounds (h : history.Alike other) (step : Traffic.Step) :
    history.rounds step = other.rounds step := by
  have hreply := (h.traffic.step step).1
  generalize hone : (history.traffic.step step).reply = reply at hreply
  generalize hother : (other.traffic.step step).reply = reply' at hreply
  cases hid : step.id? with
  | none => rw [rounds_free _ hid, rounds_free _ hid]
  | some id =>
      obtain ⟨place, request, moments, rfl⟩ | ⟨result, rfl⟩ | rfl | rfl | ⟨event, rfl⟩ :=
        Traffic.Step.about hid
      · simp only [History.rounds, hone, hother, h.traffic.now]
        cases hreply with
        | reached calls hrequest => rfl
        | same reply => cases reply <;> rfl
      · rfl
      · simp only [History.rounds, hone, hother, h.traffic.now]
        cases hreply with
        | reached calls hrequest => rfl
        | same reply =>
            cases reply with
            | progress seen =>
                obtain ⟨hone, hother⟩ | ⟨journey, journey', hone, hother, hsame⟩ :=
                  rel_cases (h.current? id)
                · simp only [hone, hother]
                · simp only [hone, hother, hsame.round]
            | done | flag | index | readiness | reached | gone | noService => rfl
      · rfl
      · simp only [History.rounds, hone, hother, h.traffic.now]
        cases hreply with
        | reached calls hrequest => rfl
        | same reply =>
            cases reply with
            | flag listening =>
                obtain ⟨hone, hother⟩ | ⟨journey, journey', hone, hother, hsame⟩ :=
                  rel_cases (h.current? id)
                · simp only [hone, hother]
                · simp only [hone, hother, hsame.request, hsame.start]
            | done | progress | index | readiness | reached | gone | noService => rfl

/-- A step goes through the same layers, in whatever order. -/
theorem passed (h : history.Alike other) (step : Traffic.Step) :
    history.passed step ~ other.passed step := by
  cases hid : step.id? with
  | none =>
      rw [passed_free _ hid, passed_free _ hid]
  | some id =>
      obtain ⟨place, request, moments, rfl⟩ | ⟨result, rfl⟩ | rfl | rfl | ⟨event, rfl⟩ :=
        Traffic.Step.about hid
      · obtain ⟨hone, hother⟩ | ⟨service, service', hone, hother, hservice⟩ :=
          rel_cases (rel_getElem? h.traffic.services place)
        · simp only [History.passed, hone, hother]
          exact List.Perm.refl _
        · simp only [History.passed, hone, hother]
          exact hservice.stack
      · exact List.Perm.refl _
      · obtain ⟨hone, hother⟩ | ⟨journey, journey', hone, hother, hsame⟩ :=
          rel_cases (h.current? id)
        · simp only [History.passed, hone, hother]
          exact List.Perm.refl _
        · simp only [History.passed, hone, hother]
          exact (List.reverse_perm _).trans (hsame.stack.trans (List.reverse_perm _).symm)
      · exact List.Perm.refl _
      · obtain ⟨hone, hother⟩ | ⟨journey, journey', hone, hother, hsame⟩ :=
          rel_cases (h.current? id)
        · simp only [History.passed, hone, hother]
          exact List.Perm.refl _
        · simp only [History.passed, hone, hother]
          exact hsame.stack

end History.Alike

/-! ### Whole runs -/

/-- Idle traffic through the same services, but for the order of their layers. -/
structure Traffic.Rearranged (traffic other : Traffic) : Prop where
  now : traffic.now = other.now
  readiness : traffic.readiness = other.readiness
  services : List.Forall₂ Service.Alike traffic.services other.services
  idle : traffic.exchanges = .empty
  idle' : other.exchanges = .empty

theorem Traffic.Rearranged.alike {traffic other : Traffic} (h : traffic.Rearranged other) :
    (History.start traffic).Alike (History.start other) := by
  refine ⟨⟨h.now, h.readiness, h.services, ?_⟩, List.Forall₂.nil⟩
  intro id
  have hone : traffic.exchanges.get? id = none := by rw [h.idle]; rfl
  have hother : other.exchanges.get? id = none := by rw [h.idle']; rfl
  show Option.Rel Exchange.Alike (traffic.exchanges.get? id) (other.exchanges.get? id)
  rw [hone, hother]
  exact Option.Rel.none

/--
**The order of the layers makes no difference but to the order of effects.**

Whatever steps traffic has taken, the effects of each step stand in the order that
`InOrder` describes, and are those of its rounds.  If the layers of the services change
places, then the next step has the same reply but for the order of the listeners on a
request, the same rounds, hence every layer the same share in it, and goes through the
same layers; and any store that makes good on the effects so far comes to the same
gauges, counters and numbers of observations.
-/
theorem Traffic.Rearranged.indifferent {traffic other : Traffic} (h : traffic.Rearranged other)
    (steps : List Traffic.Step) :
    let here := (History.start traffic).run steps
    let there := (History.start other).run steps
    here.InOrder ∧ there.InOrder ∧
    (∀ step,
      (here.traffic.step step).reply.Alike (there.traffic.step step).reply ∧
      (here.traffic.step step).effects
        = (here.rounds step).flatMap (Round.effects (here.passed step)) ∧
      (there.traffic.step step).effects
        = (here.rounds step).flatMap (Round.effects (there.passed step)) ∧
      here.passed step ~ there.passed step) ∧
    ∀ store : Store, Store.Agree (store.applyAll here.effects) (store.applyAll there.effects) := by
  intro here there
  have halike : here.Alike there := h.alike.run steps
  have hhere : here.Faithful := History.Faithful.run h.idle steps
  have hthere : there.Faithful := History.Faithful.run h.idle' steps
  refine ⟨hhere.inOrder, hthere.inOrder, ?_, ?_⟩
  · intro step
    refine ⟨(halike.traffic.step step).1, hhere.step_effects step, ?_, halike.passed step⟩
    rw [halike.rounds step]
    exact hthere.step_effects step
  · intro store
    have hsame : here.effects ~ there.effects := calc
      here.effects ~ here.journeys.flatMap Journey.deeds := hhere.accounted
      _ ~ there.journeys.flatMap Journey.deeds := deeds_alike halike.journeys
      _ ~ there.effects := hthere.accounted.symm
    exact Store.applyAll_perm hsame store

/-- A gauge around a counter, and the counter around the gauge. -/
theorem Traffic.Rearranged.indifferent_swapped :
    let gauge : Layer := .inFlight (.gauge ⟨0⟩)
    let counter : Layer := .record (.count (.family ⟨1, ["code"]⟩)) ⟨[.code], by decide⟩
    let traffic : Traffic := ⟨.start, .ready, [⟨[gauge, counter], .scripted, 0⟩], .empty⟩
    let other : Traffic := ⟨.start, .ready, [⟨[counter, gauge], .scripted, 0⟩], .empty⟩
    let request : Request := ⟨⟨"GET", by decide⟩, .ofString "/", .none, "", none⟩
    let response : Http.Response := ⟨⟨200, by decide, by decide⟩, .none, ""⟩
    let steps : List Traffic.Step :=
      [.call "a" 0 request [], .settle "a" (.answered response), .look "a"]
    traffic.Rearranged other ∧
      Store.Agree (Store.empty.applyAll ((History.start traffic).run steps).effects)
        (Store.empty.applyAll ((History.start other).run steps).effects) := by
  intro gauge counter traffic other request response steps
  have hrearranged : traffic.Rearranged other :=
    ⟨rfl, rfl, .cons ⟨.swap _ _ _, rfl, rfl⟩ .nil, rfl, rfl⟩
  exact ⟨hrearranged, (Traffic.Rearranged.indifferent hrearranged steps).2.2.2 .empty⟩

end Telemetry
