/-
A response is recorded once.

A recording layer passes a request on and is then looked at, any number of times, for as
long as its caller likes.  It makes its recording during one look at most: the first that
shows a result, if that result is a response.  A failure that comes first settles the
recording for good, and if no look shows a result, as when the caller gives up, then
nothing is recorded at all.

What is behind the layer is arbitrary here.  To handle the request and each single look
are pieces of timed work of any kind: they have effects of their own, take their time,
and show anything in any order.  `Timed.outcomes` is what the looks come to without the
layer, and `Recording.along` puts the layer's own effects between theirs.
-/
import Telemetry.Proofs.Transparency
import Telemetry.Proofs.Wiring

namespace Telemetry

/-! ### Pieces of work one after the other -/

namespace Timed

variable {α : Type}

/-- What pieces of work come to, each started when the one before it is done. -/
def outcomes : List (Timed α) → Instant → List (Outcome α)
  | [], _ => []
  | work :: rest, t => work.run t :: outcomes rest (work.run t).now

/-- Work that does not turn the clock back. -/
def Forward (work : Timed α) : Prop := ∀ t, t ≤ (work.run t).now

theorem le_outcomes {works : List (Timed α)} (hforward : ∀ work ∈ works, work.Forward)
    (t : Instant) : ∀ outcome ∈ outcomes works t, t ≤ outcome.now := by
  induction works generalizing t with
  | nil => exact fun _ h => absurd h (List.not_mem_nil)
  | cons work rest ih =>
      intro outcome hmem
      have hfirst : t ≤ (work.run t).now := hforward work (by simp) t
      rcases List.mem_cons.mp hmem with rfl | hrest
      · exact hfirst
      · exact Nat.le_trans hfirst (ih (fun other h => hforward other (by simp [h])) _ outcome hrest)

end Timed

/-! ### What a recording does along some looks -/

/-- The effects of some looks with a due recording in front of them: what it does about
the first result stands right behind that look's own effects. -/
def Recording.along (due : Recording) : List (Outcome Http.Progress) → List Effect
  | [] => []
  | sight :: rest =>
    match sight.value with
    | .pending => sight.effects ++ along due rest
    | seen => sight.effects ++ (Stage.settle due sight.now seen ++ rest.flatMap Outcome.effects)

namespace Recording

variable (due : Recording)

theorem along_pending {sights : List (Outcome Http.Progress)}
    (hpending : ∀ sight ∈ sights, sight.value = .pending) (rest : List (Outcome Http.Progress)) :
    due.along (sights ++ rest) = sights.flatMap Outcome.effects ++ due.along rest := by
  induction sights with
  | nil => rfl
  | cons sight more ih =>
      rw [List.cons_append, along, hpending sight (by simp)]
      simp only [List.flatMap_cons, List.append_assoc]
      rw [ih fun other h => hpending other (by simp [h])]

theorem along_settled {sight : Outcome Http.Progress} (hsettled : sight.value ≠ .pending)
    (rest : List (Outcome Http.Progress)) :
    due.along (sight :: rest)
      = sight.effects
        ++ (Stage.settle due sight.now sight.value ++ rest.flatMap Outcome.effects) := by
  rw [along]
  cases hseen : sight.value with
  | pending => exact absurd hseen hsettled
  | answered response => rfl
  | failed error => rfl

end Recording

namespace Stage

theorem lookEach_shown (looked : List (Timed Http.Progress)) (stages : List Stage) (t : Instant) :
    ((lookEach looked stages).run t).value = (Timed.outcomes looked t).map Outcome.value := by
  induction looked generalizing stages t with
  | nil => rfl
  | cons work rest ih => simp [lookEach, look_run, Timed.outcomes, ih]

/-- A recording that was made or given up does nothing any more. -/
theorem lookEach_spent (looked : List (Timed Http.Progress)) (t : Instant) :
    ((lookEach looked [recording none]).run t).effects
      = (Timed.outcomes looked t).flatMap Outcome.effects := by
  induction looked generalizing t with
  | nil => rfl
  | cons work rest ih =>
      have hafter : (recording none).after (work.run t).value = recording none := by
        cases (work.run t).value <;> rfl
      have hdoes : (recording none).does (work.run t).value (work.run t).now = [] := by
        cases (work.run t).value <;> rfl
      simp [lookEach, look_run, Timed.outcomes, hafter, hdoes, ih]

theorem lookEach_due (due : Recording) (looked : List (Timed Http.Progress)) (t : Instant) :
    ((lookEach looked [recording (some due)]).run t).effects
      = due.along (Timed.outcomes looked t) := by
  induction looked generalizing t with
  | nil => rfl
  | cons work rest ih =>
      rw [Timed.outcomes, Recording.along]
      cases hseen : (work.run t).value with
      | pending => simp [lookEach, look_run, hseen, after, does, settle, ih]
      | answered response =>
          simp [lookEach, look_run, hseen, after, does, settle, lookEach_spent]
      | failed error => simp [lookEach, look_run, hseen, after, does, settle, lookEach_spent]

end Stage

/-! ### The values of a response -/

/-- The value that a response to a request has for a label of that name. -/
def Http.Response.labelValue (response : Http.Response) (request : Request) (name : String) :
    String :=
  if name = Label.code.name then response.status.text else request.method.lowered

/-- The values are given in the order in which the names were declared. -/
theorem LabelOrder.values_check {names : List String} {order : LabelOrder}
    (accepted : LabelOrder.check names = .ok order) (response : Http.Response)
    (request : Request) :
    order.values response.status.text request.method.label
      = names.map (response.labelValue request) := by
  rw [← names_check accepted, LabelOrder.names, List.map_map, values]
  refine List.map_congr_left fun label _ => ?_
  cases label with
  | code => rfl
  | method => exact request.method.label_eq

/--
**A response is recorded once.**

Let a recording layer with accepted labels be handed a request, and then be looked at.
Every look shows what is behind the layer.  As long as it shows nothing, the layer has no
effects.  If the first result is a response, then the recorder is used right behind the
look that shows it and never again, with the values of that response and of the request
in declared order, and with the time since just before the request was passed on.  If the
first result is a failure, the recorder is never used.
-/
theorem Recorder.records_once {recorder : Recorder} {order : LabelOrder}
    (accepted : LabelOrder.check recorder.names = .ok order) {α : Type}
    (transport : Request → Timed α) (looked : List (Timed Http.Progress)) (request : Request)
    (t : Instant) :
    let call := (transport request).run t
    let sights := Timed.outcomes looked call.now
    let served := (Stack.serve [.record recorder order] [] transport looked request).run t
    served.value.shown = sights.map Outcome.value ∧
    ((∀ sight ∈ sights, sight.value = .pending) →
      served.effects = call.effects ++ sights.flatMap Outcome.effects) ∧
    ∀ before first after, sights = before ++ first :: after →
      (∀ sight ∈ before, sight.value = .pending) →
      (∀ response, first.value = .answered response →
        served.effects = call.effects ++ (before.flatMap Outcome.effects ++ (first.effects
          ++ ([.log (.recording response.status request.method.lowered (first.now.since t)),
              recorder.record (recorder.names.map (response.labelValue request))
                (first.now.since t)]
            ++ after.flatMap Outcome.effects)))) ∧
      (∀ error, first.value = .failed error →
        served.effects = call.effects ++ (before.flatMap Outcome.effects ++ (first.effects
          ++ ([.log (.notRecorded request.method.lowered)]
            ++ after.flatMap Outcome.effects)))) ∧
      ((transport request).Forward → (∀ work ∈ looked, work.Forward) →
        t ≤ call.now ∧ call.now ≤ first.now ∧ t.after (first.now.since t) = first.now) := by
  intro call sights served
  set due : Recording := ⟨recorder, order, request.method.label, t⟩
  have hserved : served.value.shown = sights.map Outcome.value ∧
      served.effects = call.effects ++ due.along sights := by
    have hreached : Stack.reached t [.record recorder order] request = request := rfl
    have hstages : Stack.stages t request.method.label [.record recorder order]
        = [.recording (some due)] := rfl
    have hopening : Stack.opening [.record recorder order] = [] := rfl
    simp [served, Stack.serve, Stack.call_run, hreached, hstages, hopening,
      Stage.lookEach_shown, Stage.lookEach_due, call, sights]
  refine ⟨hserved.1, ?_, ?_⟩
  · intro hpending
    have halong := due.along_pending hpending []
    rw [List.append_nil] at halong
    rw [hserved.2, halong, Recording.along, List.append_nil]
  intro before first after hsplit hpending
  have halong : first.value ≠ .pending → served.effects = call.effects
      ++ (before.flatMap Outcome.effects ++ (first.effects
        ++ (Stage.settle due first.now first.value ++ after.flatMap Outcome.effects))) := by
    intro hsettled
    rw [hserved.2, hsplit, due.along_pending hpending, due.along_settled hsettled]
  refine ⟨?_, ?_, ?_⟩
  · intro response hanswered
    rw [halong (by rw [hanswered]; exact Http.Progress.noConfusion), hanswered, Stage.settle,
      LabelOrder.values_check accepted, ← request.method.label_eq]
  · intro error hfailed
    rw [halong (by rw [hfailed]; exact Http.Progress.noConfusion), hfailed, Stage.settle,
      ← request.method.label_eq]
  · intro hcall hlooked
    have hthere : first ∈ sights := by
      rw [hsplit]
      simp
    have hin : t ≤ call.now := hcall t
    have hout : call.now ≤ first.now := Timed.le_outcomes hlooked call.now first hthere
    exact ⟨hin, hout, Instant.after_since (Nat.le_trans hin hout)⟩

/-- An answer that comes at the second look, and a failure behind it. -/
theorem Recorder.records_once_late :
    let sink : CounterSink := .probe "seen" ["method", "code"]
    let order : LabelOrder := ⟨[.method, .code], by decide⟩
    let response : Http.Response := ⟨⟨503, by decide, by decide⟩, .none, ""⟩
    let request : Request := ⟨⟨"GET", by decide⟩, .ofString "/", .none, "", none⟩
    let waiting (nanos : Nat) (seen : Http.Progress) : Timed Http.Progress := do
      Timed.advance ⟨nanos⟩
      return seen
    LabelOrder.check (Recorder.count sink).names = .ok order ∧
      ((Stack.serve [.record (.count sink) order] [] (fun _ => Timed.advance ⟨5⟩)
          [waiting 7 .pending, waiting 2 (.answered response), waiting 1 (.failed "late")]
          request).run ⟨100⟩).effects
        = [.log (.recording ⟨503, by decide, by decide⟩ "get" ⟨14⟩),
          .count sink ["get", "503"]] := by
  intro sink order response request waiting
  have accepted : LabelOrder.check (Recorder.count sink).names = .ok order := by decide
  refine ⟨accepted, ?_⟩
  obtain ⟨-, -, hsplit⟩ := Recorder.records_once accepted (fun _ => Timed.advance ⟨5⟩)
    [waiting 7 .pending, waiting 2 (.answered response), waiting 1 (.failed "late")] request ⟨100⟩
  obtain ⟨hanswered, -, -⟩ := hsplit [⟨.pending, ⟨112⟩, []⟩] ⟨.answered response, ⟨114⟩, []⟩
    [⟨.failed "late", ⟨115⟩, []⟩] rfl (by simp)
  exact (hanswered response rfl).trans (by decide)

end Telemetry
