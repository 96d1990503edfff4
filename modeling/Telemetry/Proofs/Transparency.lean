/-
A stack is invisible to whoever uses it.

A caller of a service asks for its readiness, passes a request in and looks at the
result, any number of times and also after the result is there.  What the caller is
told, and when, is what the transport alone would have told: the layers let nothing
through changed and let no time pass.  The transport, for its part, is run once for a
call and once for each look, and is given the caller's request with one more listener
for each part of the stack that traces.

The transport is arbitrary here: its readiness, the call and each single look are
pieces of timed work of any kind, with effects of their own.  That its effects appear in
the whole just once is what "run once" means.
-/
import Telemetry.Proofs.Passage
import Telemetry.Proofs.Wiring

namespace Telemetry

/-! ### Using a stack -/

/-- Looks at a dispatched request through its stages, once for each piece of work that
the transport does when it is looked at. -/
def Stage.lookEach : List (Timed Http.Progress) → List Stage → Timed (List Http.Progress)
  | [], _ => pure []
  | transport :: rest, stages => do
    let (seen, stages) ← look transport stages
    return seen :: (← lookEach rest stages)

/-- What a transport shows when it is asked for readiness some times, handed a request
and then looked at some times. -/
structure Served (α : Type) where
  readiness : List Http.Readiness
  result : α
  shown : List Http.Progress

/-- Asks a stack for readiness, passes a request in and looks at the result. -/
def Stack.serve {α : Type} (stack : Stack) (asked : List (Timed Http.Readiness))
    (transport : Request → Timed α) (looked : List (Timed Http.Progress))
    (request : Request) : Timed (Served α) := do
  let readiness ← asked.mapM stack.ready
  let (result, stages) ← stack.call transport request
  return ⟨readiness, result, ← Stage.lookEach looked stages⟩

/-- The same without a stack, the transport being handed `given now` at the instant
`now` of the call. -/
def Served.bare {α : Type} (asked : List (Timed Http.Readiness))
    (transport : Request → Timed α) (looked : List (Timed Http.Progress))
    (given : Instant → Request) : Timed (Served α) := do
  let readiness ← asked.mapM id
  let now ← Timed.now
  return ⟨readiness, ← transport (given now), ← looked.mapM id⟩

/-! ### Every look shows what the transport shows -/

theorem Stage.lookEach_run (looked : List (Timed Http.Progress)) (stages : List Stage)
    (t : Instant) :
    ((Stage.lookEach looked stages).run t).value = ((looked.mapM id).run t).value ∧
    ((Stage.lookEach looked stages).run t).now = ((looked.mapM id).run t).now ∧
    ((looked.mapM id).run t).effects.Sublist ((Stage.lookEach looked stages).run t).effects := by
  induction looked generalizing stages t with
  | nil => exact ⟨rfl, rfl, List.Sublist.refl _⟩
  | cons transport rest ih =>
      obtain ⟨hvalue, hnow, heffects⟩ :=
        ih (stages.map fun stage => stage.after (transport.run t).value) (transport.run t).now
      refine ⟨?_, ?_, ?_⟩
      · simp [Stage.lookEach, Stage.look_run, hvalue]
      · simp [Stage.lookEach, Stage.look_run, hnow]
      · simp only [Stage.lookEach, List.mapM_cons, Timed.run_bind, Stage.look_run, id_eq,
          Timed.run_pure, List.append_nil, List.append_assoc]
        -- The stages' effects stand between those of this look and of the later ones.
        exact (heffects.trans (List.sublist_append_right _ _)).append_left _

/-! ### Each part of a stack that traces attaches one listener -/

/-- The hooks of a part that traces. -/
def Part.hooks? : Part → Option HookTable
  | inFlight _ | count _ | duration _ => none
  | events sink => some (.observing sink)
  | hooks table => some table
  | metrics bundle => some bundle.hooks

/-- A stack that was put together consists of its outermost part and the rest. -/
theorem Assembled.ofParts_cons {part : Part} {inside : List Part} {assembled : Assembled}
    (accepted : Assembled.ofParts (part :: inside) = .ok assembled) :
    ∃ outer inner, part.assemble = .ok outer ∧ Assembled.ofParts inside = .ok inner ∧
      assembled.stack = outer.stack ++ inner.stack := by
  rw [Assembled.ofParts] at accepted
  cases hinner : Assembled.ofParts inside with
  | error error => rw [hinner] at accepted; cases accepted
  | ok inner =>
      rw [hinner] at accepted
      cases houter : part.assemble with
      | error cause => rw [houter] at accepted; cases accepted
      | ok outer =>
          rw [houter] at accepted
          cases accepted
          exact ⟨outer, inner, rfl, rfl, rfl⟩

theorem Part.recording_timers {recorder : Recorder} {assembled : Assembled}
    (accepted : Part.recording recorder = .ok assembled) (start : Instant) :
    assembled.stack.timers start = [] := by
  obtain ⟨order, -, rfl⟩ := Part.recording_ok accepted
  rfl

theorem Part.assemble_timers {part : Part} {assembled : Assembled}
    (accepted : part.assemble = .ok assembled) (start : Instant) :
    assembled.stack.timers start = part.hooks?.toList.map fun hooks => .timer hooks start := by
  cases part with
  | inFlight gauge => cases accepted; rfl
  | count sink => exact Part.recording_timers accepted start
  | duration sink => exact Part.recording_timers accepted start
  | events sink =>
      obtain ⟨-, rfl⟩ := Part.events_ok accepted
      rfl
  | hooks table => cases accepted; rfl
  | metrics bundle => cases accepted; rfl

theorem Assembled.timers_eq {parts : List Part} {assembled : Assembled}
    (accepted : Assembled.ofParts parts = .ok assembled) (start : Instant) :
    assembled.stack.timers start
      = (parts.filterMap Part.hooks?).map fun hooks => .timer hooks start := by
  induction parts generalizing assembled with
  | nil => cases accepted; rfl
  | cons part inside ih =>
      obtain ⟨outer, inner, houter, hinner, hstack⟩ := Assembled.ofParts_cons accepted
      have happend : assembled.stack.timers start
          = outer.stack.timers start ++ inner.stack.timers start := by
        rw [hstack]
        exact List.flatMap_append
      rw [happend, Part.assemble_timers houter, ih hinner]
      cases hhooks : part.hooks? with
      | none => simp [hhooks]
      | some table => simp [hhooks]

/-! ### The stack is transparent -/

/-- The request as a transport behind some hook tables is given it, when the call is made
at `start`: with the listeners that it carried, in their order, and behind them one timer
for each table, outermost first.  Without tables there is nothing to attach, and then a
request that carried no trace still carries none. -/
def Request.timed (request : Request) (tables : List HookTable) (start : Instant) : Request :=
  { request with
    trace :=
      if tables = [] then request.trace
      else some ⟨(request.trace.getD .empty).listeners
        ++ tables.map fun hooks => .leaf (.timer hooks start)⟩ }

theorem Request.attachEach_timers (request : Request) (tables : List HookTable)
    (start : Instant) :
    request.attachEach (tables.map fun hooks => .timer hooks start)
      = request.timed tables start := by
  rw [attachEach_eq, timed, List.map_map]
  cases tables with
  | nil => rfl
  | cons table rest => simp

/--
**A stack is transparent.**  Whoever asks it for readiness, passes a request in and
looks at the result is shown, at the same instants, what the transport alone shows when
it is handed the request with the timers attached.  Asking has no effects but those of
the transport; the call has them once, behind the raised gauges; and so has each look.
-/
theorem Assembled.serve_transparent {parts : List Part} {assembled : Assembled}
    (accepted : Assembled.ofParts parts = .ok assembled) {α : Type}
    (asked : List (Timed Http.Readiness)) (transport : Request → Timed α)
    (looked : List (Timed Http.Progress)) (request : Request) (t : Instant) :
    let tables := parts.filterMap Part.hooks?
    let readiness := (asked.mapM id).run t
    let call := (transport (request.timed tables readiness.now)).run readiness.now
    let looks := (looked.mapM id).run call.now
    let alone := (Served.bare asked transport looked (request.timed tables)).run t
    let served := (assembled.stack.serve asked transport looked request).run t
    served.value = alone.value ∧ served.now = alone.now ∧
    ∃ during, served.effects
        = readiness.effects ++ (assembled.stack.opening ++ (call.effects ++ during)) ∧
      looks.effects.Sublist during := by
  intro tables readiness call looks alone served
  have hasked : asked.mapM assembled.stack.ready = asked.mapM id := by
    congr 1
    funext transport
    exact Stack.ready_eq assembled.stack transport
  have hgiven : assembled.stack.reached readiness.now request
      = request.timed tables readiness.now := by
    rw [Stack.reached, Assembled.timers_eq accepted, Request.attachEach_timers]
  obtain ⟨hvalue, hnow, heffects⟩ := Stage.lookEach_run looked
    (assembled.stack.stages readiness.now request.method.label) call.now
  have hserved : served =
      ⟨⟨readiness.value, call.value,
          ((Stage.lookEach looked (assembled.stack.stages readiness.now
            request.method.label)).run call.now).value⟩,
        ((Stage.lookEach looked (assembled.stack.stages readiness.now
          request.method.label)).run call.now).now,
        readiness.effects ++ (assembled.stack.opening ++ (call.effects
          ++ ((Stage.lookEach looked (assembled.stack.stages readiness.now
            request.method.label)).run call.now).effects))⟩ := by
    simp [served, Stack.serve, hasked, Stack.call_run, hgiven, readiness, call]
  have halone : alone =
      ⟨⟨readiness.value, call.value, looks.value⟩, looks.now,
        readiness.effects ++ (call.effects ++ looks.effects)⟩ := by
    simp [alone, Served.bare, readiness, call, looks]
  refine ⟨?_, ?_, _, ?_, heffects⟩
  · rw [hserved, halone, hvalue]
  · rw [hserved, halone, hnow]
  · rw [hserved]

/-- Behind two tables of hooks, and with two looks at a failure. -/
theorem Assembled.serve_transparent_twice :
    let request : Request := ⟨⟨"GET", by decide⟩, .ofString "/", .none, "", none⟩
    let timer : Listener := .leaf (.timer .empty .start)
    ∃ assembled,
      Assembled.ofParts [.hooks .empty, .inFlight (.probe "busy"), .hooks .empty] = .ok assembled ∧
      ((assembled.stack.serve [pure .pending, pure .ready] (pure : Request → Timed Request)
          [pure .pending, pure (.failed "late"), pure (.failed "late")] request).run .start).value
        = ⟨[.pending, .ready], { request with trace := some ⟨[timer, timer]⟩ },
          [.pending, .failed "late", .failed "late"]⟩ := by
  intro request timer
  obtain ⟨assembled, accepted⟩ : ∃ assembled, Assembled.ofParts
      [.hooks .empty, .inFlight (.probe "busy"), .hooks .empty] = .ok assembled := ⟨_, rfl⟩
  refine ⟨assembled, accepted, ?_⟩
  have hserved := Assembled.serve_transparent accepted [pure .pending, pure .ready]
    (pure : Request → Timed Request) [pure .pending, pure (.failed "late"), pure (.failed "late")]
    request .start
  exact hserved.1.trans rfl

end Telemetry
