/-
A request is not affected by the others.

Take a run of traffic and a request in it, and leave out whatever happens to the other
requests, except that it takes the time it took.  What is left is the run of the request
on its own.  In it the request sees just what it saw in company: the same clock readings,
the same replies and the same effects, step by step.

The simulation is `Traffic.AgreeFor`: the two runs agree on the clock, on the services
but for the number of their calls, and on the one exchange.  Nothing else is read by a
step of the request, and a step of another request moves nothing of it but the clock.

Effects are left to the store, and there nothing gets lost or mixed up: what all requests
come to together is the sum of what each comes to on its own.
-/
import Mathlib.Data.List.Dedup
import Telemetry.Proofs.Contribution

namespace Telemetry

open scoped List

/-! ### One request, in company and on its own -/

/-- What is seen at a step. -/
structure Seen where
  /-- The clock when the step is taken. -/
  now : Instant
  reply : Traffic.Reply
  effects : List Effect

namespace Traffic

/-- The reply without the number of the transport's calls, which is not the request's
own. -/
def Reply.uncounted : Reply → Reply
  | .reached _ request => .reached 0 request
  | reply => reply

/-- What is seen at the steps that are about one request. -/
def watch (id : String) : Traffic → List Step → List Seen
  | _, [] => []
  | traffic, step :: rest =>
    let stepped := traffic.step step
    if step.id? = some id then
      ⟨traffic.now, stepped.reply.uncounted, stepped.effects⟩ :: watch id stepped.traffic rest
    else watch id stepped.traffic rest

/-- The steps that remain when all steps about other requests are left out.  The clock
moves on by the time that they took. -/
def alone (id : String) : Traffic → List Step → List Step
  | _, [] => []
  | traffic, step :: rest =>
    let after := (traffic.step step).traffic
    if step.id? = some id ∨ step.id? = none then step :: alone id after rest
    else .advance (after.now.since traffic.now) :: alone id after rest

end Traffic

/-- The service without the number of its calls. -/
def Service.uncounted (service : Service) : Service := { service with calls := 0 }

/-- Two traffics that are the same to one request. -/
structure Traffic.AgreeFor (id : String) (traffic other : Traffic) : Prop where
  now : traffic.now = other.now
  readiness : traffic.readiness = other.readiness
  services : traffic.services.map Service.uncounted = other.services.map Service.uncounted
  exchange : traffic.exchanges.get? id = other.exchanges.get? id

namespace Traffic.AgreeFor

variable {id : String} {traffic other : Traffic}

/-- Either there is no service at a place, or the two there differ in their calls. -/
theorem service (h : traffic.AgreeFor id other) (place : Nat) :
    (traffic.services[place]? = none ∧ other.services[place]? = none) ∨
      ∃ service calls, traffic.services[place]? = some service ∧
        other.services[place]? = some { service with calls } := by
  have hplace : (traffic.services[place]?).map Service.uncounted
      = (other.services[place]?).map Service.uncounted := by
    rw [← List.getElem?_map, h.services, List.getElem?_map]
  cases hone : traffic.services[place]? with
  | none =>
      rw [hone, Option.map_none] at hplace
      exact .inl ⟨rfl, Option.map_eq_none_iff.mp hplace.symm⟩
  | some service =>
      rw [hone, Option.map_some] at hplace
      obtain ⟨service', hother, hsame⟩ := Option.map_eq_some_iff.mp hplace.symm
      refine .inr ⟨service, service'.calls, rfl, ?_⟩
      rw [hother]
      obtain ⟨stack, transport, calls⟩ := service'
      have hstack : stack = service.stack := congrArg Service.stack hsame
      have htransport : transport = service.transport := congrArg Service.transport hsame
      rw [hstack, htransport]

/-- Setting services that differ in their calls at one place. -/
theorem set (h : traffic.AgreeFor id other) (place : Nat) (service : Service) (calls : Nat) :
    (traffic.services.set place service).map Service.uncounted
      = (other.services.set place { service with calls }).map Service.uncounted := by
  rw [List.map_set, List.map_set, h.services]
  rfl

theorem keep (h : traffic.AgreeFor id other) (exchange : Exchange) :
    (traffic.keep id exchange).AgreeFor id (other.keep id exchange) := by
  refine { h with exchange := ?_ }
  show (traffic.exchanges.insert id exchange).get? id = (other.exchanges.insert id exchange).get? id
  rw [Table.get?_insert, Table.get?_insert, if_pos rfl, if_pos rfl]

/-! ### A step of the request itself -/

theorem own (h : traffic.AgreeFor id other) {step : Step} (hown : step.id? = some id) :
    (traffic.step step).reply.uncounted = (other.step step).reply.uncounted ∧
      (traffic.step step).effects = (other.step step).effects ∧
      (traffic.step step).traffic.AgreeFor id (other.step step).traffic := by
  obtain ⟨place, request, moments, rfl⟩ | ⟨result, rfl⟩ | rfl | rfl | ⟨event, rfl⟩ :=
    Step.about hown
  · obtain ⟨hone, hother⟩ | ⟨service, calls, hone, hother⟩ := h.service place
    · rw [step_call_noService hone, step_call_noService hother]
      exact ⟨rfl, rfl, h⟩
    · rw [step_call hone, step_call hother, h.now]
      refine ⟨rfl, rfl, ?_⟩
      have hmoved : AgreeFor id
          { traffic with now := Moment.finish other.now moments, services := _ }
          { other with now := Moment.finish other.now moments, services := _ } :=
        { h with
          now := rfl
          services := h.set place { service with calls := service.calls + 1 } (calls + 1) }
      rw [dispatched, dispatched, h.now]
      exact hmoved.keep _
  · cases hone : traffic.exchanges.get? id with
    | none =>
        rw [step_settle_gone hone, step_settle_gone (h.exchange ▸ hone)]
        exact ⟨rfl, rfl, h⟩
    | some exchange =>
        rw [step_settle hone, step_settle (h.exchange ▸ hone)]
        exact ⟨rfl, rfl, h.keep _⟩
  · cases hstages : (traffic.exchanges.get? id).bind Exchange.stages with
    | none =>
        rw [step_look_gone hstages, step_look_gone (h.exchange ▸ hstages)]
        exact ⟨rfl, rfl, h⟩
    | some stages =>
        obtain ⟨exchange, hone, hsome⟩ := Option.bind_eq_some_iff.mp hstages
        rw [step_look hone hsome, step_look (h.exchange ▸ hone) hsome, h.now]
        exact ⟨rfl, rfl, h.keep _⟩
  · cases hone : traffic.exchanges.get? id with
    | none =>
        rw [step_drop_gone hone, step_drop_gone (h.exchange ▸ hone)]
        exact ⟨rfl, rfl, h⟩
    | some exchange =>
        rw [step_drop hone, step_drop (h.exchange ▸ hone)]
        exact ⟨rfl, rfl, h.keep _⟩
  · cases hone : traffic.exchanges.get? id with
    | none =>
        rw [step_report_gone hone, step_report_gone (h.exchange ▸ hone)]
        exact ⟨rfl, rfl, h⟩
    | some exchange =>
        rw [step_report hone, step_report (h.exchange ▸ hone), h.now]
        exact ⟨rfl, rfl, h⟩

/-! ### A step about no request -/

theorem free (h : traffic.AgreeFor id other) {step : Step} (hfree : step.id? = none) :
    (traffic.step step).traffic.AgreeFor id (other.step step).traffic := by
  obtain ⟨d, rfl⟩ | ⟨readiness, rfl⟩ | ⟨place, rfl⟩ | ⟨place, rfl⟩ | ⟨place, rfl⟩ :=
    Step.free hfree
  · exact { h with now := by simp only [Traffic.step, Stepped.quiet, h.now] }
  · exact { h with readiness := rfl }
  · obtain ⟨hone, hother⟩ | ⟨service, calls, hone, hother⟩ := h.service place
    · simp only [Traffic.step, hone, hother]
      exact h
    · rw [step_ready hone, step_ready hother]
      exact h
  · obtain ⟨hone, hother⟩ | ⟨service, calls, hone, hother⟩ := h.service place
    · simp only [Traffic.step, hone, hother]
      exact h
    · simp only [Traffic.step, hone, hother]
      refine { h with services := ?_ }
      show (traffic.services ++ [service]).map Service.uncounted
        = (other.services ++ [{ service with calls }]).map Service.uncounted
      rw [List.map_append, List.map_append, h.services]
      rfl
  · exact { h with services := h.set place ⟨[], .scripted, 0⟩ 0 }

/-! ### A step of another request -/

/-- Of a step of another request nothing is noticed but the time it takes. -/
theorem elsewhere (h : traffic.AgreeFor id other) {step : Step} {others : String}
    (hstep : step.id? = some others) (hne : others ≠ id) :
    (traffic.step step).traffic.AgreeFor id
      (other.step (.advance ((traffic.step step).traffic.now.since traffic.now))).traffic := by
  have hstay : ∀ {after : Traffic}, traffic.now ≤ after.now → after.readiness = traffic.readiness →
      after.services.map Service.uncounted = traffic.services.map Service.uncounted →
      after.exchanges.get? id = traffic.exchanges.get? id →
      after.AgreeFor id (other.step (.advance (after.now.since traffic.now))).traffic := by
    intro after hnow hreadiness hservices hexchange
    refine ⟨?_, hreadiness.trans h.readiness, hservices.trans h.services,
      hexchange.trans h.exchange⟩
    show after.now = other.now.after (after.now.since traffic.now)
    rw [← h.now, Instant.after_since hnow]
  rcases traffic.step_kept hstep with ⟨place, request, moments, rfl⟩ | hsame | ⟨exchange, hkeep⟩
  · cases hservice : traffic.services[place]? with
    | none =>
        rw [step_call_noService hservice]
        exact hstay (Nat.le_refl _) rfl rfl rfl
    | some service =>
        rw [step_call hservice]
        refine hstay (Moment.le_finish traffic.now moments) rfl ?_ ?_
        · obtain ⟨hplace, hget⟩ := List.getElem?_eq_some_iff.mp hservice
          have hself := List.set_getElem_self
            (show place < (traffic.services.map Service.uncounted).length by
              rw [List.length_map]
              exact hplace)
          rw [List.getElem_map, hget] at hself
          show (traffic.services.set place { service with calls := service.calls + 1 }).map
            Service.uncounted = _
          rw [List.map_set]
          exact hself
        · exact get?_keep hne traffic _
  · rw [hsame]
    exact hstay (Nat.le_refl _) rfl rfl rfl
  · rw [hkeep]
    exact hstay (Nat.le_refl _) rfl rfl (get?_keep hne traffic exchange)

end Traffic.AgreeFor

/-! ### The journeys of one request -/

theorem filter_revise {change : Journey → Journey} (hkeeps : Journey.Keeps change)
    (id other : String) (journeys : List Journey) :
    (Journey.revise id change journeys).filter (fun journey => journey.id = other)
      = if id = other then
          Journey.revise id change (journeys.filter fun journey => journey.id = other)
        else journeys.filter fun journey => journey.id = other := by
  induction journeys with
  | nil => by_cases h : id = other <;> simp [Journey.revise, h]
  | cons journey earlier ih =>
      by_cases hj : journey.id = id
      · rw [Journey.revise, if_pos hj]
        subst hj
        by_cases h : journey.id = other
        · simp [h, hkeeps.id, Journey.revise]
        · simp [h, hkeeps.id]
      · rw [Journey.revise, if_neg hj]
        by_cases h : id = other
        · subst h
          simpa [hj] using ih
        · rw [if_neg h] at ih ⊢
          rw [List.filter_cons, List.filter_cons, ih]

/-- Two histories that are the same to one request; the second knows of its journeys
only. -/
structure History.AgreeFor (id : String) (history other : History) : Prop where
  traffic : history.traffic.AgreeFor id other.traffic
  journeys : other.journeys = history.journeys.filter fun journey => journey.id = id

namespace History.AgreeFor

variable {id : String} {history other : History}

theorem own (h : history.AgreeFor id other) {step : Traffic.Step} (hown : step.id? = some id) :
    (history.next step).AgreeFor id (other.next step) := by
  refine ⟨(h.traffic.own hown).2.2, ?_⟩
  show other.record step = (history.record step).filter _
  have hrevise : ∀ {change : Journey → Journey}, Journey.Keeps change →
      Journey.revise id change other.journeys
        = (Journey.revise id change history.journeys).filter fun journey => journey.id = id := by
    intro change hkeeps
    rw [filter_revise hkeeps, if_pos rfl, h.journeys]
  obtain ⟨place, request, moments, rfl⟩ | ⟨result, rfl⟩ | rfl | rfl | ⟨event, rfl⟩ :=
    Traffic.Step.about hown
  · obtain ⟨hone, hother⟩ | ⟨service, calls, hone, hother⟩ := h.traffic.service place
    · simp only [record, hone, hother]
      exact h.journeys
    · simp only [record, hone, hother, h.traffic.now, h.journeys]
      simp
  · exact h.journeys
  · cases hstages : (history.traffic.exchanges.get? id).bind Exchange.stages with
    | none =>
        have hother := Traffic.step_look_gone (h.traffic.exchange ▸ hstages)
        simp only [record, Traffic.step_look_gone hstages, hother, Traffic.Stepped.quiet]
        exact h.journeys
    | some stages =>
        obtain ⟨exchange, hone, hsome⟩ := Option.bind_eq_some_iff.mp hstages
        have hother := Traffic.step_look (h.traffic.exchange ▸ hone) hsome
        simp only [record, Traffic.step_look hone hsome, hother, h.traffic.now]
        exact hrevise (Journey.keeps_see _)
  · exact h.journeys
  · cases hone : history.traffic.exchanges.get? id with
    | none =>
        have hother := Traffic.step_report_gone (h.traffic.exchange ▸ hone) event
        simp only [record, Traffic.step_report_gone hone, hother, Traffic.Stepped.quiet]
        exact h.journeys
    | some exchange =>
        have hother := Traffic.step_report (h.traffic.exchange ▸ hone) event
        simp only [record, Traffic.step_report hone, hother, h.traffic.now]
        exact hrevise (Journey.keeps_hear _)

theorem free (h : history.AgreeFor id other) {step : Traffic.Step} (hfree : step.id? = none) :
    (history.next step).AgreeFor id (other.next step) := by
  refine ⟨h.traffic.free hfree, ?_⟩
  show other.record step = (history.record step).filter _
  rw [record_free _ hfree, record_free _ hfree]
  exact h.journeys

/-- The journeys under other identifiers are all that another request's step changes. -/
theorem record_elsewhere (history : History) {step : Traffic.Step} {others : String}
    (hstep : step.id? = some others) (hne : others ≠ id) :
    (history.record step).filter (fun journey => journey.id = id)
      = history.journeys.filter fun journey => journey.id = id := by
  rcases history.record_kept hstep with
    ⟨place, request, moments, rfl⟩ | hsame | ⟨change, hkeeps, hrevise⟩
  · cases hservice : history.traffic.services[place]? with
    | none => simp only [record, hservice]
    | some service =>
        simp only [record, hservice]
        rw [List.filter_cons, if_neg (by simpa using hne)]
  · rw [hsame]
  · rw [hrevise, filter_revise hkeeps, if_neg hne]

theorem elsewhere (h : history.AgreeFor id other) {step : Traffic.Step} {others : String}
    (hstep : step.id? = some others) (hne : others ≠ id) :
    (history.next step).AgreeFor id (other.next
      (.advance ((history.next step).traffic.now.since history.traffic.now))) := by
  refine ⟨h.traffic.elsewhere hstep hne, ?_⟩
  show other.journeys = (history.record step).filter _
  rw [record_elsewhere history hstep hne]
  exact h.journeys

/-! ### Whole runs -/

/-- In the run on its own, a request sees what it sees in company, and nothing is done
but for it. -/
theorem run (h : history.AgreeFor id other) (steps : List Traffic.Step) :
    other.traffic.watch id (history.traffic.alone id steps) = history.traffic.watch id steps ∧
      (other.run (history.traffic.alone id steps)).effects
        = other.effects ++ (history.traffic.watch id steps).flatMap Seen.effects ∧
      (history.run steps).AgreeFor id (other.run (history.traffic.alone id steps)) := by
  induction steps generalizing history other with
  | nil => exact ⟨rfl, (List.append_nil _).symm, h⟩
  | cons step rest ih =>
      cases hstep : step.id? with
      | none =>
          obtain ⟨hwatch, heffects, hrest⟩ := ih (h.free hstep)
          have hquiet : (other.next step).effects = other.effects := by
            show other.effects ++ (other.traffic.step step).effects = other.effects
            rw [(Traffic.step_free other.traffic hstep).1, List.append_nil]
          rw [hquiet] at heffects
          simp only [Traffic.alone, Traffic.watch, hstep, or_true, if_true, reduceCtorEq, if_false]
          exact ⟨hwatch, heffects, hrest⟩
      | some others =>
          by_cases hown : others = id
          · subst hown
            obtain ⟨hreply, hsame, -⟩ := h.traffic.own hstep
            obtain ⟨hwatch, heffects, hrest⟩ := ih (h.own hstep)
            simp only [Traffic.alone, Traffic.watch, hstep, true_or, if_true]
            refine ⟨?_, ?_, hrest⟩
            · rw [hreply, hsame, h.traffic.now]
              exact congrArg _ hwatch
            · rw [List.flatMap_cons, ← List.append_assoc, hsame]
              exact heffects
          · obtain ⟨hwatch, heffects, hrest⟩ := ih (h.elsewhere hstep hown)
            have hne : ¬ (some others = some id ∨ some others = none) := by
              rintro (hsome | hnone)
              · exact hown (Option.some.inj hsome)
              · cases hnone
            have hquiet : ∀ d, (other.next (.advance d)).effects = other.effects := fun d =>
              List.append_nil _
            rw [hquiet] at heffects
            have halone : history.traffic.alone id (step :: rest)
                = .advance ((history.next step).traffic.now.since history.traffic.now)
                  :: (history.next step).traffic.alone id rest := by
              simp only [Traffic.alone, hstep]
              rw [if_neg hne]
              rfl
            have hunseen : history.traffic.watch id (step :: rest)
                = (history.next step).traffic.watch id rest := by
              simp only [Traffic.watch, hstep, Option.some.injEq, if_neg hown]
              rfl
            rw [halone, hunseen]
            exact ⟨hwatch, heffects, hrest⟩

end History.AgreeFor

/-! ### All requests together -/

/-- The identifiers of the requests that some steps are about. -/
def Traffic.ids (steps : List Step) : List String := (steps.filterMap Step.id?).dedup

/-- Some list is added to the part of one identifier. -/
theorem flatMap_one {ids : List String} (hnodup : ids.Nodup) {id : String} (hid : id ∈ ids)
    (more : List Effect) (part : String → List Effect) :
    (ids.flatMap fun other => (if other = id then more else []) ++ part other)
      ~ more ++ ids.flatMap part := by
  have hone : (ids.flatMap fun other => if other = id then more else []) = more := by
    induction ids with
    | nil => exact absurd hid (List.not_mem_nil)
    | cons first rest ih =>
        obtain ⟨hfirst, hrest⟩ := List.nodup_cons.mp hnodup
        rw [List.flatMap_cons]
        by_cases hsame : first = id
        · have hnone : (rest.flatMap fun other => if other = id then more else []) = [] := by
            rw [List.flatMap_eq_nil_iff]
            intro other hother
            rw [if_neg]
            intro h
            rw [h, ← hsame] at hother
            exact hfirst hother
          rw [if_pos hsame, hnone, List.append_nil]
        · rcases List.mem_cons.mp hid with h | h
          · exact absurd h.symm hsame
          · rw [if_neg hsame, List.nil_append]
            exact ih hrest h
  have hsplit := List.flatMap_append_perm ids (fun other => if other = id then more else []) part
  rw [hone] at hsplit
  exact hsplit.symm

/-- All effects of a run are those that the requests see, each for itself. -/
theorem History.effects_watch (history : History) {ids : List String} (hnodup : ids.Nodup)
    {steps : List Traffic.Step} (hids : ∀ step ∈ steps, ∀ id, step.id? = some id → id ∈ ids) :
    (history.run steps).effects
      ~ history.effects
        ++ ids.flatMap fun id => (history.traffic.watch id steps).flatMap Seen.effects := by
  induction steps generalizing history with
  | nil =>
      have hnone : (ids.flatMap fun id =>
          (history.traffic.watch id []).flatMap Seen.effects) = [] := by
        rw [List.flatMap_eq_nil_iff]
        intro id _
        rfl
      rw [hnone, List.append_nil]
      exact List.Perm.refl _
  | cons step rest ih =>
      have hrest := ih (history.next step) fun other hother => hids other (by simp [hother])
      refine hrest.trans ?_
      show (history.effects ++ (history.traffic.step step).effects) ++ _ ~ _
      rw [List.append_assoc]
      refine List.Perm.append_left _ ?_
      cases hstep : step.id? with
      | none =>
          rw [(Traffic.step_free history.traffic hstep).1]
          simp only [Traffic.watch, hstep, reduceCtorEq, if_false]
          exact List.Perm.refl _
      | some others =>
          have hwatch : (fun id => (history.traffic.watch id (step :: rest)).flatMap Seen.effects)
              = fun id => (if id = others then (history.traffic.step step).effects else [])
                ++ ((history.next step).traffic.watch id rest).flatMap Seen.effects := by
            funext id
            by_cases hid : id = others
            · subst hid
              simp only [Traffic.watch, hstep, if_true]
              rfl
            · have hne : ¬ others = id := fun h => hid h.symm
              simp only [Traffic.watch, hstep, Option.some.injEq, if_neg hid, if_neg hne]
              rfl
          rw [hwatch]
          exact (flatMap_one hnodup (hids step (by simp) others hstep) _ _).symm

/-! ### What the store makes of it -/

namespace Store

/-- The effects come to the sum of what the parts come to, each in an empty store; and
they are refused only if one of the parts is. -/
def SumsUp (store : Store) (effects : List Effect) (ids : List String)
    (part : String → List Effect) : Prop :=
  match store.applyAll effects with
  | .error _ => ∃ id ∈ ids, ∃ mismatch, Store.empty.applyAll (part id) = .error mismatch
  | .ok after => ∃ own : String → Store,
    (∀ id ∈ ids, Store.empty.applyAll (part id) = .ok (own id)) ∧
    (∀ gauge, after.gauge gauge
      = store.gauge gauge + (ids.map fun id => (own id).gauge gauge).sum) ∧
    (∀ key, after.counted key = store.counted key + (ids.map fun id => (own id).counted key).sum) ∧
    ∀ key, after.observed key = store.observed key + (ids.map fun id => (own id).observed key).sum

theorem sumsUp {effects : List Effect} {ids : List String} {part : String → List Effect}
    (hperm : effects ~ ids.flatMap part) (store : Store) : store.SumsUp effects ids part := by
  by_cases hfits : ∀ effect ∈ effects, effect.Fits
  · obtain ⟨after, hok, hposted⟩ := applyAll_ok hfits store
    have hpart : ∀ id, ∃ own, id ∈ ids →
        Store.empty.applyAll (part id) = .ok own ∧ Posted .empty (part id) own := by
      intro id
      by_cases hid : id ∈ ids
      · obtain ⟨own, hown⟩ := applyAll_ok (fun effect hmem => hfits effect
          (hperm.mem_iff.mpr (List.mem_flatMap.mpr ⟨id, hid, hmem⟩))) Store.empty
        exact ⟨own, fun _ => hown⟩
      · exact ⟨.empty, fun h => absurd h hid⟩
    choose own hown using hpart
    rw [SumsUp, hok]
    refine ⟨own, fun id hid => (hown id hid).1, ?_, ?_, ?_⟩
    · intro gauge
      have hids : ids.map (fun id => (own id).gauge gauge) = ids.map fun id =>
          Int64.ofInt ((part id).map (Effect.shift gauge)).sum := by
        refine List.map_congr_left fun id hid => ?_
        rw [(hown id hid).2.gauge]
        exact Int64.zero_add _
      rw [hposted.gauge, hids, (hperm.map (Effect.shift gauge)).sum_eq, sum_flatMap, ofInt_sum]
    · intro key
      have hids : ids.map (fun id => (own id).counted key) = ids.map fun id =>
          UInt64.ofNat ((part id).map (Effect.counts key)).sum := by
        refine List.map_congr_left fun id hid => ?_
        rw [(hown id hid).2.counted]
        exact UInt64.zero_add _
      rw [hposted.counted, hids, (hperm.map (Effect.counts key)).sum_eq, sum_flatMap, ofNat_sum]
    · intro key
      have hids : ids.map (fun id => (own id).observed key) = ids.map fun id =>
          ((part id).map (Effect.observes key)).sum := by
        refine List.map_congr_left fun id hid => ?_
        rw [(hown id hid).2.observed]
        exact Nat.zero_add _
      rw [hposted.observed, hids, (hperm.map (Effect.observes key)).sum_eq, sum_flatMap]
  · obtain ⟨mismatch, hrefused⟩ := applyAll_refused hfits store
    rw [SumsUp, hrefused]
    push Not at hfits
    obtain ⟨effect, hmem, hunfit⟩ := hfits
    obtain ⟨id, hid, hpart⟩ := List.mem_flatMap.mp (hperm.mem_iff.mp hmem)
    exact ⟨id, hid, applyAll_refused (fun h => hunfit (h effect hpart)) Store.empty⟩

end Store

/--
**A request is not affected by the others.**

Whatever steps idle traffic takes: if all that happens to the other requests is left out
but for the time it takes, a request still sees the same at each of its steps, nothing
is done but what it sees, and its journeys are the same.  What the store comes to is the
sum of what the requests come to on their own, and each gauge is moved by what the
requests hold raised that no look has shown a response to.
-/
theorem History.isolated {traffic : Traffic} (hidle : traffic.exchanges = .empty)
    (steps : List Traffic.Step) :
    let here := (History.start traffic).run steps
    let lone (id : String) := (History.start traffic).run (traffic.alone id steps)
    (∀ id, traffic.watch id (traffic.alone id steps) = traffic.watch id steps ∧
      (lone id).effects = (traffic.watch id steps).flatMap Seen.effects ∧
      (lone id).journeys = here.journeys.filter fun journey => journey.id = id) ∧
    ∀ store : Store,
      store.SumsUp here.effects (Traffic.ids steps) (fun id => (lone id).effects) ∧
      ∀ after, store.applyAll here.effects = .ok after →
        ∀ gauge, after.gauge gauge = store.gauge gauge + Int64.ofNat (here.inFlight gauge) := by
  intro here lone
  have hrun : ∀ id, traffic.watch id (traffic.alone id steps) = traffic.watch id steps ∧
      (lone id).effects = (traffic.watch id steps).flatMap Seen.effects ∧
      here.AgreeFor id (lone id) := by
    intro id
    have hstart : (History.start traffic).AgreeFor id (History.start traffic) :=
      ⟨⟨rfl, rfl, rfl, rfl⟩, rfl⟩
    exact hstart.run steps
  refine ⟨?_, ?_⟩
  · intro id
    obtain ⟨hwatch, heffects, hagree⟩ := hrun id
    exact ⟨hwatch, heffects, hagree.journeys⟩
  intro store
  refine ⟨?_, ?_⟩
  · have hperm : here.effects ~ (Traffic.ids steps).flatMap fun id => (lone id).effects := by
      have hids : ∀ step ∈ steps, ∀ id, step.id? = some id → id ∈ Traffic.ids steps := by
        intro step hstep id hid
        exact List.mem_dedup.mpr (List.mem_filterMap.mpr ⟨step, hstep, hid⟩)
      have hseen := (History.start traffic).effects_watch (List.nodup_dedup _) hids
      have hparts : (fun id => (traffic.watch id steps).flatMap Seen.effects)
          = fun id => (lone id).effects := by
        funext id
        exact (hrun id).2.1.symm
      rw [← hparts]
      exact hseen
    exact Store.sumsUp hperm store
  · intro after hok gauge
    have hfaithful : here.Faithful := History.Faithful.run hidle steps
    rw [(Store.posted hok).gauge, hfaithful.gauge]
    rfl

/-- Two requests that share a gauge. -/
theorem History.isolated_two :
    let traffic : Traffic := ⟨.start, .ready, [⟨[.inFlight (.gauge ⟨0⟩)], .scripted, 0⟩], .empty⟩
    let request : Request := ⟨⟨"GET", by decide⟩, .ofString "/", .none, "", none⟩
    let response : Http.Response := ⟨⟨200, by decide, by decide⟩, .none, ""⟩
    let steps : List Traffic.Step :=
      [.call "a" 0 request [.wait ⟨5⟩], .call "b" 0 request [.wait ⟨7⟩],
       .settle "a" (.answered response), .look "b", .look "a"]
    (traffic.watch "a" (traffic.alone "a" steps)).map Seen.now = [⟨0⟩, ⟨12⟩, ⟨12⟩] ∧
      ∃ after, Store.empty.applyAll ((History.start traffic).run steps).effects = .ok after ∧
        after.gauge ⟨0⟩ = 1 := by
  intro traffic request response steps
  have hidle : traffic.exchanges = .empty := rfl
  obtain ⟨halone, hstore⟩ := History.isolated hidle steps
  refine ⟨?_, _, rfl, ?_⟩
  · rw [(halone "a").1]
    decide
  · rw [(hstore .empty).2 _ rfl ⟨0⟩]
    decide

end Telemetry
