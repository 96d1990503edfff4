/-
What a passage through a stack comes to.

On the way in, no layer lets time pass before the transport has the request.  So all
layers read the clock at the same instant, and what a layer does about a call is a
function of the layer, of that instant and of the request's method: the effects it has
(`opening`), the listener it attaches (`timers`) and the stage it keeps (`stages`).  On
the way out, a look takes no time either: each stage has the effects `does` and turns
into `after`, both functions of the stage and of what was seen.

`Stack.call_run` and `Stage.look_run` put these pieces together, and are all that later
files know about `Stack.call` and `Stage.look`.  A call goes through the pieces from the
outside in, a look from the inside out.
-/
import Telemetry.Proofs.Hearing

namespace Telemetry

/-! ### The pieces of a single layer -/

namespace Layer

/-- The effects of a layer when a request comes in, before it is passed on. -/
def opening : Layer → List Effect
  | inFlight gauge => [.raise gauge]
  | record .. | trace _ => []

/-- The leaf that a layer attaches to a request that comes in at an instant. -/
def timers (start : Instant) : Layer → List Leaf
  | trace hooks => [.timer hooks start]
  | inFlight _ | record .. => []

/-- The stage that a layer keeps of a request that came in at an instant, with the
label value of its method. -/
def stages (start : Instant) (method : String) : Layer → List Stage
  | inFlight gauge => [.gauge (some gauge)]
  | record recorder order => [.recording (some ⟨recorder, order, method, start⟩)]
  | trace _ => []

end Layer

namespace Stage

/-- The stage that is left after a look. -/
def after (stage : Stage) (seen : Http.Progress) : Stage :=
  match stage, seen with
  | stage, .pending => stage
  | gauge _, .answered _ => gauge none
  | gauge raised, .failed _ => gauge raised
  | recording _, .answered _ | recording _, .failed _ => recording none

/-- What a recording that was due does about a response or a failure. -/
def settle (due : Recording) (now : Instant) : Http.Progress → List Effect
  | .pending => []
  | .answered response =>
    [.log (.recording response.status due.method (now.since due.start)),
     due.recorder.record (due.order.values response.status.text due.method)
       (now.since due.start)]
  | .failed _ => [.log (.notRecorded due.method)]

/-- What a stage does about a look. -/
def does (seen : Http.Progress) (now : Instant) (stage : Stage) : List Effect :=
  match stage, seen with
  | gauge (some sink), .answered _ => [.lower sink]
  | recording (some due), seen => settle due now seen
  | _, _ => []

theorem pass_run (stage : Stage) (seen : Http.Progress) (t : Instant) :
    (stage.pass seen).run t = ⟨(seen, stage.after seen), t, stage.does seen t⟩ := by
  cases stage with
  | gauge raised => cases raised <;> cases seen <;> simp [pass, after, does]
  | recording due =>
      cases due <;> cases seen <;>
        simp [pass, after, does, settle, Recording.complete, Recording.abandon]

end Stage

/-! ### The pieces put together -/

namespace Stack

/-- The effects of the layers when a request comes in, outermost layer first. -/
def opening (stack : Stack) : List Effect := stack.flatMap Layer.opening

/-- The leaves that the layers attach, outermost layer first. -/
def timers (start : Instant) (stack : Stack) : List Leaf := stack.flatMap (Layer.timers start)

/-- The stages of the layers, outermost layer first. -/
def stages (start : Instant) (method : String) (stack : Stack) : List Stage :=
  stack.flatMap (Layer.stages start method)

/-- The request that gets through to the transport. -/
def reached (start : Instant) (stack : Stack) (request : Request) : Request :=
  request.attachEach (stack.timers start)

variable {α : Type}

/-- A call runs the transport once, on the request with the layers' leaves attached and
at the instant of the call; in front of its effects stand those of the layers. -/
theorem call_run (stack : Stack) (transport : Request → Timed α) (request : Request)
    (t : Instant) :
    (stack.call transport request).run t =
      ⟨(((transport (stack.reached t request)).run t).value,
          stack.stages t request.method.label),
        ((transport (stack.reached t request)).run t).now,
        stack.opening ++ ((transport (stack.reached t request)).run t).effects⟩ := by
  induction stack generalizing request with
  | nil => simp [call, reached, timers, stages, opening, Request.attachEach]
  | cons layer inner ih =>
      have hcons : Stack.call (layer :: inner) transport request
          = layer.call (Stack.call inner transport) request := rfl
      rw [hcons]
      cases layer with
      | inFlight gauge =>
          simp [Layer.call, ih, reached, timers, stages, opening, Layer.timers, Layer.stages,
            Layer.opening]
      | record recorder order =>
          simp [Layer.call, ih, reached, timers, stages, opening, Layer.timers, Layer.stages,
            Layer.opening]
      | trace hooks =>
          -- The inner layers see the request with the timer already attached to it.
          have hreached : Stack.reached t inner (request.attach (.leaf (.timer hooks t)))
              = Stack.reached t (.trace hooks :: inner) request := rfl
          simp [Layer.call, ih, hreached, stages, opening, Layer.stages, Layer.opening]

end Stack

/-- No layer has a say in readiness. -/
theorem Stack.ready_eq (stack : Stack) (transport : Timed Http.Readiness) :
    stack.ready transport = transport := by
  induction stack with
  | nil => rfl
  | cons layer inner ih =>
      show layer.ready (Stack.ready inner transport) = transport
      exact ih

/-- A look runs the transport once and shows what the transport showed; behind its
effects stand those of the stages, innermost stage first. -/
theorem Stage.look_run (transport : Timed Http.Progress) (stages : List Stage) (t : Instant) :
    (Stage.look transport stages).run t =
      ⟨((transport.run t).value, stages.map fun stage => stage.after (transport.run t).value),
        (transport.run t).now,
        (transport.run t).effects
          ++ stages.reverse.flatMap (Stage.does (transport.run t).value (transport.run t).now)⟩ := by
  induction stages with
  | nil => simp [look]
  | cons stage inner ih => simp [look, ih, pass_run]

end Telemetry
