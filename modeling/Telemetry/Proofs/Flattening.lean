/-
A tree of listeners delivers what its flat list of leaves delivers.

Traces can be attached to traces, to any depth and to themselves, so what a request
carries is a tree, and an event goes down that tree.  Beside the shelf of trees stands a
flat shelf, on which a request carries a list of leaves and a number: attaching a trace
appends the leaves that the trace has at that moment and adds one to the number.  The two
shelves are stepped side by side, and whatever is fired on the one is delivered as the
other says.

The flat shelf has no trees in which anything could be shared.  So what a request delivers
can only change by a step that writes to that request, and a copy keeps what it was given.
-/
import Mathlib.Logic.Function.Basic
import Telemetry.Proofs.Hearing
import Telemetry.Shelf.Traces

namespace Telemetry

/-! ### Telling a tree is telling its leaves -/

mutual

theorem Listener.hear_eq_forM (event : Event) :
    ∀ listener : Listener, listener.hear event = forM listener.leaves (Leaf.hear event)
  | .leaf single => by
    rw [Listener.hear, Listener.leaves, List.forM_cons, List.forM_nil, bind_pure_unit]
  | .group members => by
    rw [Listener.hear, Listener.leaves, Listener.hearEach_eq_forM event members]

theorem Listener.hearEach_eq_forM (event : Event) :
    ∀ listeners : List Listener,
      Listener.hearEach event listeners
        = forM (Listener.leavesOfEach listeners) (Leaf.hear event)
  | [] => by rw [Listener.hearEach, Listener.leavesOfEach, List.forM_nil]
  | listener :: rest => by
    rw [Listener.hearEach, Listener.leavesOfEach, List.forM_append,
      Listener.hear_eq_forM event listener, Listener.hearEach_eq_forM event rest]

end

/-- What a trace comes to: its leaves from left to right, and the number of listeners that
were attached. -/
structure Carried where
  leaves : List Leaf
  size : Nat

namespace Carried

/-- What the empty trace comes to. -/
def nothing : Carried := ⟨[], 0⟩

/-- One more listener, which stands for these leaves. -/
def attach (carried : Carried) (leaves : List Leaf) : Carried :=
  ⟨carried.leaves ++ leaves, carried.size + 1⟩

/-- Tells every leaf of an event, from left to right. -/
def fire (carried : Carried) (event : Event) : Timed Unit :=
  forM carried.leaves (Leaf.hear event)

theorem fire_run (carried : Carried) (event : Event) (t : Instant) :
    (carried.fire event).run t = ⟨(), t, carried.leaves.flatMap (Leaf.heard event t)⟩ := by
  have hfire := Listener.hearEach_run event t (carried.leaves.map Listener.leaf)
  rwa [Listener.hearEach_eq_forM, Listener.leavesOfEach_map_leaf] at hfire

end Carried

namespace Trace

/-- What the trace comes to. -/
def carried (trace : Trace) : Carried := ⟨trace.leaves, trace.size⟩

@[simp] theorem carried_empty : empty.carried = .nothing := rfl

@[simp] theorem leaves_carried (trace : Trace) : trace.carried.leaves = trace.leaves := rfl

@[simp] theorem leaves_asListener (trace : Trace) : trace.asListener.leaves = trace.leaves := by
  rw [asListener, Listener.leaves, leaves]

@[simp] theorem carried_attach (trace : Trace) (listener : Listener) :
    (trace.attach listener).carried = trace.carried.attach listener.leaves := by
  have hleaves : (trace.attach listener).leaves = trace.leaves ++ listener.leaves := by
    simp [leaves, attach, Listener.leavesOfEach_append, Listener.leavesOfEach]
  have hsize : (trace.attach listener).size = trace.size + 1 := by
    simp [size, attach]
  rw [carried, hleaves, hsize]
  rfl

theorem fire_carried (trace : Trace) (event : Event) :
    trace.fire event = trace.carried.fire event :=
  Listener.hearEach_eq_forM event trace.listeners

end Trace

/-! ### The flat shelf -/

/-- What each request carries, if it carries a trace. -/
structure FlatShelf where
  carried? : String → Option Carried

namespace FlatShelf

/-- What a request carries, nothing if it carries no trace. -/
def carried (flat : FlatShelf) (request : String) : Carried :=
  (flat.carried? request).getD .nothing

/-- The flat shelf with what a request carries replaced. -/
def put (flat : FlatShelf) (request : String) (carried : Option Carried) : FlatShelf :=
  ⟨Function.update flat.carried? request carried⟩

/-- What a step on the shelf of traces does to the flat shelf. -/
def step (flat : FlatShelf) : TraceShelf.Step → FlatShelf
  | .attach request listener =>
    flat.put request (some ((flat.carried request).attach listener.leaves))
  | .attachTrace request source =>
    flat.put request (some ((flat.carried request).attach (flat.carried source).leaves))
  | .putTrace request source => flat.put request (some (flat.carried source))
  | .remove request => flat.put request none
  | .copy request source => flat.put request (flat.carried? source)
  | .get _ | .fire .. => flat

/-- What a step delivers to the leaves. -/
def delivered (flat : FlatShelf) : TraceShelf.Step → List Effect
  | .fire request event => (((flat.carried request).fire event).run .start).effects
  | _ => []

/-- The flat shelf after some steps. -/
def after (flat : FlatShelf) (steps : List TraceShelf.Step) : FlatShelf := steps.foldl step flat

/-- What each of some steps delivers. -/
def deliveries (flat : FlatShelf) : List TraceShelf.Step → List (List Effect)
  | [] => []
  | one :: rest => flat.delivered one :: (flat.step one).deliveries rest

end FlatShelf

namespace TraceShelf

/-- The shelf with trees flattened to their leaves. -/
def flat (shelf : TraceShelf) : FlatShelf where
  carried? request := (shelf.trace? request).map Trace.carried

/-- The shelf after some steps. -/
def after (shelf : TraceShelf) (steps : List Step) : TraceShelf :=
  steps.foldl (fun shelf step => (shelf.step step).shelf) shelf

/-- The request that a step writes to, if it writes to one. -/
def Step.written? : Step → Option String
  | .attach request _ | .attachTrace request _ | .putTrace request _ | .remove request
  | .copy request _ => some request
  | .get _ | .fire .. => none

@[simp] theorem carried_flat (shelf : TraceShelf) (request : String) :
    shelf.flat.carried request = (shelf.traceOf request).carried := by
  cases h : shelf.trace? request <;> simp [FlatShelf.carried, flat, traceOf, h]

@[simp] theorem flat_put (shelf : TraceShelf) (request : String) (trace : Option Trace) :
    (shelf.put request trace).flat = shelf.flat.put request (trace.map Trace.carried) := by
  have hone : ∀ other, ((shelf.put request trace).trace? other).map Trace.carried
      = Function.update shelf.flat.carried? request (trace.map Trace.carried) other := by
    intro other
    by_cases h : other = request
    · subst h
      simp [put, trace?, Table.get?_insert]
    · have h' : ¬ request = other := fun e => h e.symm
      simp [put, trace?, Table.get?_insert, flat, h, h']
  exact congrArg FlatShelf.mk (funext hone)

/-- A step on the shelf is a step on the flat shelf. -/
theorem flat_step (shelf : TraceShelf) (step : Step) :
    (shelf.step step).shelf.flat = shelf.flat.step step := by
  cases step with
  | attach request listener => simp [TraceShelf.step, attach, FlatShelf.step]
  | attachTrace request source => simp [TraceShelf.step, attach, FlatShelf.step]
  | putTrace request source => simp [TraceShelf.step, FlatShelf.step]
  | remove request => simp [TraceShelf.step, FlatShelf.step]
  | copy request source => simp only [TraceShelf.step, FlatShelf.step, flat_put]; rfl
  | get request => rfl
  | fire request event =>
      cases h : shelf.trace? request <;> simp [TraceShelf.step, FlatShelf.step, h]

/-- A step delivers what it delivers on the flat shelf. -/
theorem step_effects (shelf : TraceShelf) (step : Step) :
    (shelf.step step).effects = shelf.flat.delivered step := by
  cases step with
  | fire request event =>
      cases h : shelf.trace? request with
      | none => simp [TraceShelf.step, FlatShelf.delivered, h, traceOf, Carried.fire_run,
          Carried.nothing]
      | some trace => simp [TraceShelf.step, FlatShelf.delivered, h, traceOf, Trace.fire_carried]
  | _ => rfl

/-! ### A run on the shelf is a run on the flat shelf -/

theorem flat_after (shelf : TraceShelf) (steps : List Step) :
    (shelf.after steps).flat = shelf.flat.after steps := by
  induction steps generalizing shelf with
  | nil => rfl
  | cons step rest ih =>
      have htail := ih (shelf.step step).shelf
      rw [flat_step] at htail
      exact htail

theorem run_effects (shelf : TraceShelf) (steps : List Step) :
    (shelf.run steps).map Stepped.effects = shelf.flat.deliveries steps := by
  induction steps generalizing shelf with
  | nil => rfl
  | cons step rest ih =>
      rw [run, List.map_cons, ih, step_effects, flat_step, FlatShelf.deliveries]

theorem after_append (shelf : TraceShelf) (front back : List Step) :
    shelf.after (front ++ back) = (shelf.after front).after back :=
  List.foldl_append

/-! ### A request keeps what is not written to -/

/-- What an event of a request delivers. -/
def told (shelf : TraceShelf) (request : String) (event : Event) : List Effect :=
  (shelf.step (.fire request event)).effects

theorem told_eq (shelf : TraceShelf) (request : String) (event : Event) :
    shelf.told request event
      = (shelf.flat.carried request).leaves.flatMap (Leaf.heard event .start) := by
  rw [told, step_effects, FlatShelf.delivered, Carried.fire_run]

/-- Two shelves on which requests carry the same are told the same of them. -/
theorem told_congr {shelf other : TraceShelf} {request clone : String}
    (h : shelf.flat.carried request = other.flat.carried clone) (event : Event) :
    shelf.told request event = other.told clone event := by
  rw [told_eq, told_eq, h]

end TraceShelf

namespace FlatShelf

theorem carried_put (flat : FlatShelf) (request : String) (carried : Option Carried) :
    (flat.put request carried).carried request = carried.getD .nothing := by
  simp [put, FlatShelf.carried]

theorem carried?_step {step : TraceShelf.Step} {request : String}
    (hwritten : step.written? ≠ some request) (flat : FlatShelf) :
    (flat.step step).carried? request = flat.carried? request := by
  have hput : ∀ {other : String}, some other ≠ some request → ∀ carried,
      (flat.put other carried).carried? request = flat.carried? request := by
    intro other hne carried
    exact Function.update_of_ne (fun h => hne (congrArg some h.symm)) _ _
  cases step with
  | get request => rfl
  | fire request event => rfl
  | _ => exact hput hwritten _

theorem carried?_after {steps : List TraceShelf.Step} {request : String}
    (hwritten : ∀ step ∈ steps, step.written? ≠ some request) (flat : FlatShelf) :
    (flat.after steps).carried? request = flat.carried? request := by
  induction steps generalizing flat with
  | nil => rfl
  | cons step rest ih =>
      have hrest := ih (fun one hone => hwritten one (List.mem_cons_of_mem step hone))
        (flat.step step)
      rw [carried?_step (hwritten step List.mem_cons_self) flat] at hrest
      exact hrest

end FlatShelf

namespace TraceShelf

/-- Steps that do not write to a request do not change what it carries. -/
theorem carried_after {shelf : TraceShelf} {later : List Step} {request : String}
    (hlater : ∀ step ∈ later, step.written? ≠ some request) :
    (shelf.after later).flat.carried request = shelf.flat.carried request := by
  rw [flat_after, FlatShelf.carried, FlatShelf.carried?_after hlater]
  rfl

/-- What a step writes to a request is what the request carries until it is written to
again. -/
theorem carried_written {step : Step} {request : String} {written : Option Carried}
    (shelf : TraceShelf) (hstep : shelf.flat.step step = shelf.flat.put request written)
    {later : List Step} (hlater : ∀ step ∈ later, step.written? ≠ some request) :
    (shelf.after (step :: later)).flat.carried request = written.getD .nothing := by
  have hlast : (shelf.after (step :: later)).flat.carried request
      = ((shelf.step step).shelf.after later).flat.carried request := rfl
  rw [hlast, carried_after hlater, flat_step, hstep, FlatShelf.carried_put]

/-- What is delivered after some steps, and what later steps have no part in. -/
structure Delivers (shelf : TraceShelf) (steps : List Step) : Prop where
  /-- Whatever is fired in the course of the steps is delivered as on the flat shelf. -/
  delivered : (shelf.run steps).map Stepped.effects = shelf.flat.deliveries steps
  /-- The trace that a request carries has the leaves, and the number of listeners, that
  the request carries on the flat shelf. -/
  carried : ∀ request, ((shelf.after steps).trace? request).map Trace.carried
    = (shelf.flat.after steps).carried? request
  /-- An event is passed on, just as it is, to each of those leaves in turn. -/
  fired : ∀ request event, ((shelf.after steps).traceOf request).fire event
    = forM ((shelf.flat.after steps).carried request).leaves (Leaf.hear event)
  /-- Without a trace nothing is delivered. -/
  untraced : ∀ request event, (shelf.after steps).trace? request = none →
    (shelf.after steps).told request event = []
  /-- A listener that is attached comes after all others, and adds one to their number. -/
  attached : ∀ request listener later, (∀ step ∈ later, step.written? ≠ some request) →
    ((shelf.after (steps ++ .attach request listener :: later)).traceOf request).carried
      = ((shelf.after steps).traceOf request).carried.attach listener.leaves
  /-- So does a trace that is attached, perhaps to the request that carries it; its leaves
  are those that it had at that moment. -/
  nested : ∀ request source later, (∀ step ∈ later, step.written? ≠ some request) →
    ((shelf.after (steps ++ .attachTrace request source :: later)).traceOf request).carried
      = ((shelf.after steps).traceOf request).carried.attach
          ((shelf.after steps).traceOf source).leaves
  /-- Steps on other requests do not change what a request delivers. -/
  elsewhere : ∀ request event later, (∀ step ∈ later, step.written? ≠ some request) →
    (shelf.after (steps ++ later)).told request event = (shelf.after steps).told request event
  /-- A clone delivers what its source delivered when it was cloned, whatever is done to
  the source afterwards. -/
  cloned : ∀ clone source event later, (∀ step ∈ later, step.written? ≠ some clone) →
    (shelf.after (steps ++ .putTrace clone source :: later)).told clone event
        = (shelf.after steps).told source event ∧
      (shelf.after (steps ++ .copy clone source :: later)).told clone event
        = (shelf.after steps).told source event

/-- **Events reach the leaves of the trees**, in order and once for each occurrence, and a
request delivers the same until it is written to. -/
theorem delivers_leaves (shelf : TraceShelf) (steps : List Step) : shelf.Delivers steps where
  delivered := shelf.run_effects steps
  carried request := congrFun (congrArg FlatShelf.carried? (shelf.flat_after steps)) request
  fired request event := by
    rw [Trace.fire_carried, ← carried_flat, flat_after]
    rfl
  untraced request event htrace := by
    simp [told, step, htrace]
  attached request listener later hlater := by
    have hstep : (shelf.after steps).flat.step (.attach request listener)
        = (shelf.after steps).flat.put request
            (some (((shelf.after steps).flat.carried request).attach listener.leaves)) := rfl
    rw [after_append, ← carried_flat, ← carried_flat]
    exact carried_written _ hstep hlater
  nested request source later hlater := by
    have hstep : (shelf.after steps).flat.step (.attachTrace request source)
        = (shelf.after steps).flat.put request
            (some (((shelf.after steps).flat.carried request).attach
              ((shelf.after steps).flat.carried source).leaves)) := rfl
    rw [after_append, ← carried_flat, ← carried_flat, ← Trace.leaves_carried, ← carried_flat]
    exact carried_written _ hstep hlater
  elsewhere request event later hlater := by
    rw [after_append]
    exact told_congr (carried_after hlater) event
  cloned clone source event later hlater := by
    have hput : (shelf.after steps).flat.step (.putTrace clone source)
        = (shelf.after steps).flat.put clone
            (some ((shelf.after steps).flat.carried source)) := rfl
    have hcopy : (shelf.after steps).flat.step (.copy clone source)
        = (shelf.after steps).flat.put clone ((shelf.after steps).flat.carried? source) := rfl
    rw [after_append, after_append]
    exact ⟨told_congr (carried_written _ hput hlater) event,
      told_congr (carried_written _ hcopy hlater) event⟩

/-- A request that carries its own trace twice over is copied, and then gets another
listener, of which the copy does not know. -/
theorem delivers_leaves_doubled :
    (∀ step ∈ [Step.attach "first" (.leaf (.probe "late" .everything))],
      step.written? ≠ some "second") ∧
    (empty.after ([.attach "first" (.leaf (.probe "early" .everything)),
        .attachTrace "first" "first"] ++ .copy "second" "first"
          :: [.attach "first" (.leaf (.probe "late" .everything))])).told "second" .wroteHeaders
      = [.hear "early" .wroteHeaders, .hear "early" .wroteHeaders] := by
  have hlater : ∀ step ∈ [Step.attach "first" (.leaf (.probe "late" .everything))],
      step.written? ≠ some "second" := by
    intro step hstep
    rw [List.mem_singleton.mp hstep]
    decide
  refine ⟨hlater, ?_⟩
  rw [((empty.delivers_leaves _).cloned "second" "first" .wroteHeaders _ hlater).2]
  decide

end TraceShelf

end Telemetry
