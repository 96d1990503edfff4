/-
What each step of traffic comes to.

Traffic is stepped by running timed work.  The three kinds of step that do run some are
a call, a look and a report, and here each is written out once and for all: its reply,
the traffic after it and its effects.  All other steps have no effects.  Whoever argues
about runs of traffic goes by these equations, and never unfolds a step again.
-/
import Mathlib.Data.List.Forall2
import Telemetry.Proofs.Passage

namespace Telemetry

/-- The leaves of the trace on an exchange, none if there is no trace on it. -/
def Exchange.leaves (exchange : Exchange) : List Leaf :=
  match exchange.trace with
  | none => []
  | some trace => trace.leaves

theorem Exchange.leaves_eq {exchange : Exchange} {request : Request}
    (htrace : exchange.trace = request.trace) : exchange.leaves = request.leaves := by
  rw [leaves, htrace]
  rfl

namespace Traffic

/-- The identifier of the request that a step is about, if it is about one. -/
def Step.id? : Step → Option String
  | .advance _ | .setReadiness _ | .ready _ | .copy _ | .dropService _ => none
  | .call id .. | .settle id _ | .look id | .drop id | .report id _ => some id

theorem Step.about {step : Step} {id : String} (h : step.id? = some id) :
    (∃ place request moments, step = .call id place request moments) ∨
    (∃ result, step = .settle id result) ∨ step = .look id ∨ step = .drop id ∨
    ∃ event, step = .report id event := by
  cases step with
  | advance d => cases h
  | setReadiness readiness => cases h
  | ready place => cases h
  | copy place => cases h
  | dropService place => cases h
  | call other place request moments => cases h; exact .inl ⟨place, request, moments, rfl⟩
  | settle other result => cases h; exact .inr (.inl ⟨result, rfl⟩)
  | look other => cases h; exact .inr (.inr (.inl rfl))
  | drop other => cases h; exact .inr (.inr (.inr (.inl rfl)))
  | report other event => cases h; exact .inr (.inr (.inr (.inr ⟨event, rfl⟩)))

theorem Step.free {step : Step} (h : step.id? = none) :
    (∃ d, step = .advance d) ∨ (∃ readiness, step = .setReadiness readiness) ∨
    (∃ place, step = .ready place) ∨ (∃ place, step = .copy place) ∨
    ∃ place, step = .dropService place := by
  cases step with
  | advance d => exact .inl ⟨d, rfl⟩
  | setReadiness readiness => exact .inr (.inl ⟨readiness, rfl⟩)
  | ready place => exact .inr (.inr (.inl ⟨place, rfl⟩))
  | copy place => exact .inr (.inr (.inr (.inl ⟨place, rfl⟩)))
  | dropService place => exact .inr (.inr (.inr (.inr ⟨place, rfl⟩)))
  | call id place request moments => cases h
  | settle id result => cases h
  | look id => cases h
  | drop id => cases h
  | report id event => cases h

variable {traffic : Traffic}

/-! ### A call -/

/-- The traffic after a request was dispatched through a service. -/
def dispatched (traffic : Traffic) (id : String) (place : Nat) (service : Service)
    (request : Request) (moments : List Moment) : Traffic :=
  { traffic with
    now := Moment.finish traffic.now moments
    services := traffic.services.set place { service with calls := service.calls + 1 }
    exchanges := traffic.exchanges.insert id
      { trace := (service.stack.reached traffic.now request).trace
        result := .pending
        stages := some (service.stack.stages traffic.now request.method.label) } }

/-- The layers have their effects first; then the transport reports its events to all
that listen. -/
theorem step_call {place : Nat} {service : Service}
    (hservice : traffic.services[place]? = some service) (id : String) (request : Request)
    (moments : List Moment) :
    traffic.step (.call id place request moments) =
      { reply := .reached (service.calls + 1) (service.stack.reached traffic.now request)
        traffic := traffic.dispatched id place service request moments
        effects := service.stack.opening
          ++ (service.stack.reached traffic.now request).heard
            (Moment.timeline traffic.now moments) } := by
  simp only [step, hservice, dispatch, Stack.call_run, handle_run, dispatched]

theorem step_call_noService {place : Nat} (hservice : traffic.services[place]? = none)
    (id : String) (request : Request) (moments : List Moment) :
    traffic.step (.call id place request moments) = .quiet traffic .noService := by
  simp only [step, hservice]

/-! ### A look -/

/-- The traffic after an exchange was looked at through its stages. -/
def lookedAt (traffic : Traffic) (id : String) (exchange : Exchange)
    (stages : List Stage) : Traffic :=
  { traffic with
    exchanges := traffic.exchanges.insert id
      { exchange with
        stages := some (stages.map fun stage => stage.after exchange.result) } }

/-- A look shows the transport's result, and the stages have their effects from the
inside out. -/
theorem step_look {id : String} {exchange : Exchange} {stages : List Stage}
    (hexchange : traffic.exchanges.get? id = some exchange)
    (hstages : exchange.stages = some stages) :
    traffic.step (.look id) =
      { reply := .progress exchange.result
        traffic := traffic.lookedAt id exchange stages
        effects := stages.reverse.flatMap (Stage.does exchange.result traffic.now) } := by
  simp only [step, hexchange, lookAt, hstages, Stage.look_run, Timed.run_pure, lookedAt,
    List.nil_append]

/-- Where nothing is left to look at, a look has no effects. -/
theorem step_look_gone {id : String}
    (hgone : (traffic.exchanges.get? id).bind Exchange.stages = none) :
    traffic.step (.look id) = .quiet traffic .gone := by
  cases hexchange : traffic.exchanges.get? id with
  | none => simp only [step, hexchange]
  | some exchange =>
      rw [hexchange] at hgone
      have hstages : exchange.stages = none := hgone
      simp only [step, hexchange, lookAt, hstages]

/-! ### A report -/

/-- A report reaches the leaves of the trace that the transport was given. -/
theorem step_report {id : String} {exchange : Exchange}
    (hexchange : traffic.exchanges.get? id = some exchange) (event : Event) :
    traffic.step (.report id event) =
      ⟨.flag exchange.trace.isSome, traffic,
        exchange.leaves.flatMap (Leaf.heard event traffic.now)⟩ := by
  cases htrace : exchange.trace with
  | none =>
      simp only [step, hexchange, reportTo, htrace, Exchange.leaves]
      rfl
  | some trace =>
      simp only [step, hexchange, reportTo, htrace, Exchange.leaves, Trace.fire_run]
      rfl

theorem step_report_gone {id : String} (hexchange : traffic.exchanges.get? id = none)
    (event : Event) : traffic.step (.report id event) = .quiet traffic .gone := by
  simp only [step, hexchange]

/-! ### All other steps -/

theorem step_ready {place : Nat} {service : Service}
    (hservice : traffic.services[place]? = some service) :
    traffic.step (.ready place)
      = .quiet traffic (.readiness (traffic.transportReady service.transport)) := by
  have hready : service.stack.ready (pure (traffic.transportReady service.transport))
      = pure (traffic.transportReady service.transport) := Stack.ready_eq _ _
  simp only [step, hservice, askReady, hready, Timed.run_pure]
  rfl

theorem step_settle {id : String} {exchange : Exchange}
    (hexchange : traffic.exchanges.get? id = some exchange) (result : Http.Progress) :
    traffic.step (.settle id result) = .quiet (traffic.keep id { exchange with result }) .done := by
  simp only [step, hexchange]

theorem step_settle_gone {id : String} (hexchange : traffic.exchanges.get? id = none)
    (result : Http.Progress) : traffic.step (.settle id result) = .quiet traffic .gone := by
  simp only [step, hexchange]

theorem step_drop {id : String} {exchange : Exchange}
    (hexchange : traffic.exchanges.get? id = some exchange) :
    traffic.step (.drop id)
      = .quiet (traffic.keep id { exchange with stages := none })
          (.flag exchange.stages.isSome) := by
  simp only [step, hexchange]

theorem step_drop_gone {id : String} (hexchange : traffic.exchanges.get? id = none) :
    traffic.step (.drop id) = .quiet traffic (.flag false) := by
  simp only [step, hexchange]

/-! ### What a step leaves alone -/

/-- Keeping an exchange does not touch those under other identifiers. -/
theorem get?_keep {id other : String} (hne : other ≠ id) (traffic : Traffic)
    (exchange : Exchange) :
    (traffic.keep other exchange).exchanges.get? id = traffic.exchanges.get? id := by
  show (traffic.exchanges.insert other exchange).get? id = _
  rw [Table.get?_insert, if_neg hne]

/-- A step that is about no request has no effects and leaves all requests alone. -/
theorem step_free (traffic : Traffic) {step : Step} (hfree : step.id? = none) :
    (traffic.step step).effects = [] ∧
      (traffic.step step).traffic.exchanges = traffic.exchanges := by
  obtain ⟨d, rfl⟩ | ⟨readiness, rfl⟩ | ⟨place, rfl⟩ | ⟨place, rfl⟩ | ⟨place, rfl⟩ :=
    Step.free hfree
  · exact ⟨rfl, rfl⟩
  · exact ⟨rfl, rfl⟩
  · cases hservice : traffic.services[place]? with
    | none => simp only [Traffic.step, hservice]; exact ⟨rfl, rfl⟩
    | some service => rw [step_ready hservice]; exact ⟨rfl, rfl⟩
  · cases hservice : traffic.services[place]? with
    | none => simp only [Traffic.step, hservice]; exact ⟨rfl, rfl⟩
    | some service => simp only [Traffic.step, hservice]; exact ⟨rfl, rfl⟩
  · exact ⟨rfl, rfl⟩

/-- A step that is about a request, and not its call, changes nothing but the exchange. -/
theorem step_kept (traffic : Traffic) {step : Step} {id : String} (hid : step.id? = some id) :
    (∃ place request moments, step = .call id place request moments) ∨
    (traffic.step step).traffic = traffic ∨
    ∃ exchange, (traffic.step step).traffic = traffic.keep id exchange := by
  obtain ⟨place, request, moments, rfl⟩ | ⟨result, rfl⟩ | rfl | rfl | ⟨event, rfl⟩ :=
    Step.about hid
  · exact .inl ⟨place, request, moments, rfl⟩
  · right
    cases hexchange : traffic.exchanges.get? id with
    | none => rw [step_settle_gone hexchange]; exact .inl rfl
    | some exchange => rw [step_settle hexchange]; exact .inr ⟨_, rfl⟩
  · right
    cases hstages : (traffic.exchanges.get? id).bind Exchange.stages with
    | none => rw [step_look_gone hstages]; exact .inl rfl
    | some stages =>
        obtain ⟨exchange, hexchange, hsome⟩ := Option.bind_eq_some_iff.mp hstages
        rw [step_look hexchange hsome]
        exact .inr ⟨_, rfl⟩
  · right
    cases hexchange : traffic.exchanges.get? id with
    | none => rw [step_drop_gone hexchange]; exact .inl rfl
    | some exchange => rw [step_drop hexchange]; exact .inr ⟨_, rfl⟩
  · right
    cases hexchange : traffic.exchanges.get? id with
    | none => rw [step_report_gone hexchange]; exact .inl rfl
    | some exchange => rw [step_report hexchange]; exact .inl rfl

end Traffic

/-! ### Two lists of services are compared place by place -/

section Places

variable {α β : Type} {R : α → β → Prop} {l : List α} {l' : List β}

theorem rel_cases {x : Option α} {y : Option β} (h : Option.Rel R x y) :
    (x = none ∧ y = none) ∨ ∃ a b, x = some a ∧ y = some b ∧ R a b := by
  cases h with
  | none => exact .inl ⟨rfl, rfl⟩
  | some hone => exact .inr ⟨_, _, rfl, rfl, hone⟩

theorem rel_getElem? (h : List.Forall₂ R l l') (place : Nat) :
    Option.Rel R l[place]? l'[place]? := by
  induction h generalizing place with
  | nil => simp
  | cons hone _ ih =>
      cases place with
      | zero => simpa using hone
      | succ place => simpa using ih place

theorem rel_set (h : List.Forall₂ R l l') {a : α} {a' : β} (ha : R a a') (place : Nat) :
    List.Forall₂ R (l.set place a) (l'.set place a') := by
  induction h generalizing place with
  | nil => exact List.Forall₂.nil
  | cons hone hrest ih =>
      cases place with
      | zero => exact List.Forall₂.cons ha hrest
      | succ place => exact List.Forall₂.cons hone (ih place)

end Places

end Telemetry
