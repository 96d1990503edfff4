/-
An event reaches every leaf, and takes no time.

A trace may hold other traces, so the listeners of a request form a tree.  Telling the
tree of an event comes to telling its leaves, from left to right, and no leaf lets the
clock move: all of them hear the event at one instant.  So what an event does is a
function of that instant and of the list of leaves, and `heard` is that function.  All
statements about events rest on it; nothing after this file looks into a listener.
-/
import Telemetry.Traffic

namespace Telemetry

/-- What a leaf does about an event at an instant. -/
def Leaf.heard (event : Event) (now : Instant) : Leaf → List Effect
  | probe name attention =>
    if attention.notices event.phase then [.hear name event] else []
  | timer hooks start =>
    match event.failure with
    | some error => [.log (.lifecycleFailed event.phase error)]
    | none =>
      match hooks.hook? event.phase with
      | none => []
      | some hook =>
        [.log (.lifecycle event.phase (now.since start)),
         hook.call (.elapsed (now.since start))]

theorem Leaf.hear_run (event : Event) (leaf : Leaf) (t : Instant) :
    (leaf.hear event).run t = ⟨(), t, leaf.heard event t⟩ := by
  cases leaf with
  | probe name attention =>
      cases h : attention.notices event.phase <;> simp [Leaf.hear, Leaf.heard, h]
  | timer hooks start =>
      cases hf : event.failure with
      | some error => simp [Leaf.hear, Leaf.heard, hf]
      | none =>
          cases hh : hooks.hook? event.phase <;> simp [Leaf.hear, Leaf.heard, hf, hh]

/-! ### A tree of listeners is its leaves -/

mutual

theorem Listener.hear_run (event : Event) (t : Instant) :
    ∀ listener : Listener, (listener.hear event).run t
      = ⟨(), t, listener.leaves.flatMap (Leaf.heard event t)⟩
  | .leaf single => by
    rw [Listener.hear, Listener.leaves, Leaf.hear_run]
    simp
  | .group members => by
    rw [Listener.hear, Listener.leaves, Listener.hearEach_run event t members]

theorem Listener.hearEach_run (event : Event) (t : Instant) :
    ∀ listeners : List Listener, (Listener.hearEach event listeners).run t
      = ⟨(), t, (Listener.leavesOfEach listeners).flatMap (Leaf.heard event t)⟩
  | [] => by simp [Listener.hearEach, Listener.leavesOfEach]
  | listener :: rest => by
    rw [Listener.hearEach, Listener.leavesOfEach, Timed.run_bind,
      Listener.hear_run event t listener, Listener.hearEach_run event t rest,
      List.flatMap_append]

end

theorem Listener.leavesOfEach_append (front back : List Listener) :
    Listener.leavesOfEach (front ++ back)
      = Listener.leavesOfEach front ++ Listener.leavesOfEach back := by
  induction front with
  | nil => rfl
  | cons listener rest ih =>
      rw [List.cons_append, Listener.leavesOfEach, Listener.leavesOfEach, ih, List.append_assoc]

theorem Listener.leavesOfEach_map_leaf (leaves : List Leaf) :
    Listener.leavesOfEach (leaves.map Listener.leaf) = leaves := by
  induction leaves with
  | nil => rfl
  | cons leaf rest ih =>
      rw [List.map_cons, Listener.leavesOfEach, Listener.leaves, ih, List.singleton_append]

theorem Trace.fire_run (trace : Trace) (event : Event) (t : Instant) :
    (trace.fire event).run t = ⟨(), t, trace.leaves.flatMap (Leaf.heard event t)⟩ :=
  Listener.hearEach_run event t trace.listeners

/-! ### Listeners that are attached to a request -/

namespace Request

/-- The leaves of the trace that a request carries, none if it carries no trace. -/
def leaves (request : Request) : List Leaf :=
  match request.trace with
  | none => []
  | some trace => trace.leaves

theorem fire_run (request : Request) (event : Event) (t : Instant) :
    (request.fire event).run t = ⟨(), t, request.leaves.flatMap (Leaf.heard event t)⟩ := by
  cases h : request.trace with
  | none => simp [fire, leaves, h]
  | some trace => simp only [fire, leaves, h, Trace.fire_run]

@[simp] theorem method_attach (request : Request) (listener : Listener) :
    (request.attach listener).method = request.method := rfl

/-- The request with some more leaves, one after the other. -/
def attachEach (request : Request) (leaves : List Leaf) : Request :=
  leaves.foldl (fun request leaf => request.attach (.leaf leaf)) request

/-- Attaching leaves changes the trace and nothing else.  A request that carries no
trace gets one only if there is something to attach. -/
theorem attachEach_eq (request : Request) (leaves : List Leaf) :
    request.attachEach leaves =
      { request with
        trace :=
          if leaves = [] then request.trace
          else some ⟨(request.trace.getD .empty).listeners ++ leaves.map Listener.leaf⟩ } := by
  induction leaves generalizing request with
  | nil => rfl
  | cons leaf rest ih =>
      have hstep : request.attachEach (leaf :: rest)
          = (request.attach (.leaf leaf)).attachEach rest := rfl
      rw [hstep, ih]
      cases rest with
      | nil => simp [attach, Trace.attach]
      | cons next more => simp [attach, Trace.attach]

@[simp] theorem leaves_attachEach (request : Request) (leaves : List Leaf) :
    (request.attachEach leaves).leaves = request.leaves ++ leaves := by
  rw [attachEach_eq]
  by_cases h : leaves = []
  · subst h
    simp [Request.leaves]
  · cases ht : request.trace with
    | none =>
        simp [Request.leaves, ht, h, Trace.leaves, Trace.empty, Listener.leavesOfEach_map_leaf]
    | some trace =>
        simp [Request.leaves, ht, h, Trace.leaves, Listener.leavesOfEach_append,
          Listener.leavesOfEach_map_leaf]

end Request

/-! ### What a transport does while it is handed a request -/

/-- The events that some moments report, each with its instant, if the first moment
begins at `now`. -/
def Moment.timeline (now : Instant) : List Moment → List (Instant × Event)
  | [] => []
  | .wait d :: rest => timeline (now.after d) rest
  | .report event :: rest => (now, event) :: timeline now rest

/-- The instant at which the last of some moments is over. -/
def Moment.finish (now : Instant) : List Moment → Instant
  | [] => now
  | .wait d :: rest => finish (now.after d) rest
  | .report _ :: rest => finish now rest

theorem Moment.le_finish (t : Instant) (moments : List Moment) : t ≤ Moment.finish t moments := by
  induction moments generalizing t with
  | nil => exact Nat.le_refl _
  | cons moment rest ih =>
      cases moment with
      | wait d => exact Nat.le_trans (Instant.le_after t d) (ih (t.after d))
      | report event => exact ih t

/-- What the listeners of a request do about events, each at its own instant. -/
def Request.heard (request : Request) (reported : List (Instant × Event)) : List Effect :=
  reported.flatMap fun one => request.leaves.flatMap (Leaf.heard one.2 one.1)

theorem Moment.run_forM (request : Request) (moments : List Moment) (t : Instant) :
    (forM moments (Traffic.Moment.happen request)).run t =
      ⟨(), Moment.finish t moments, request.heard (Moment.timeline t moments)⟩ := by
  induction moments generalizing t with
  | nil => rfl
  | cons moment rest ih =>
      rw [List.forM_cons, Timed.run_bind, ih]
      cases moment with
      | wait d => simp [Traffic.Moment.happen, Moment.finish, Moment.timeline]
      | report event =>
          simp [Traffic.Moment.happen, Moment.finish, Moment.timeline, Request.fire_run,
            Request.heard]

/-- A transport returns the request that it was given, and every event that it reports
reaches every leaf of that request. -/
theorem Traffic.handle_run (moments : List Moment) (request : Request) (t : Instant) :
    (Traffic.handle moments request).run t =
      ⟨request, Moment.finish t moments, request.heard (Moment.timeline t moments)⟩ := by
  have hmoments := Moment.run_forM request moments t
  simp [Traffic.handle, hmoments]

end Telemetry
