/-
Both routes lead to the same layers.

Whether a part is put around an inner stack at once or made into a layer first, what it
puts there are the layers that it is assembled of, and it is refused on the one route
exactly if it is refused on the other, for the same cause.  So parts can be put together by
hand, each by its own route and around as many inner stacks as one likes, and the outcome
is the stack that is put together of these parts.
-/
import Telemetry.Proofs.Transparency
import Telemetry.Route

namespace Telemetry

theorem Bundle.instrument_eq (bundle : Bundle) (inner : Stack) :
    bundle.instrument inner = bundle.layers ++ inner := rfl

namespace Part

theorem new_recording (recorder : Recorder) (inner : Stack) :
    recorder.new inner
      = (recording recorder).map fun assembled => assembled.stack ++ inner := by
  unfold Recorder.new recording
  cases LabelOrder.check recorder.names <;> rfl

theorem layer_recording (recorder : Recorder) :
    recorder.layer = (recording recorder).map fun assembled inner => assembled.stack ++ inner := by
  unfold Recorder.layer recording
  cases LabelOrder.check recorder.names <;> rfl

/-- A part puts the layers that it is assembled of around an inner stack. -/
theorem new_eq (part : Part) (inner : Stack) :
    part.new inner = part.assemble.map fun assembled => assembled.stack ++ inner := by
  cases part with
  | count sink => exact new_recording (.count sink) inner
  | duration sink => exact new_recording (.observe sink) inner
  | events sink =>
      simp only [new, assemble]
      cases HookTable.observeEvents sink <;> rfl
  | inFlight | hooks | metrics => rfl

/-- A layer of a part puts the same layers around every inner stack. -/
theorem layer_eq (part : Part) :
    part.layer = part.assemble.map fun assembled inner => assembled.stack ++ inner := by
  cases part with
  | count sink => exact layer_recording (.count sink)
  | duration sink => exact layer_recording (.observe sink)
  | events sink =>
      simp only [layer, assemble]
      cases HookTable.observeEvents sink <;> rfl
  | inFlight | hooks | metrics => rfl

theorem around_ok {part : Part} {assembled : Assembled}
    (accepted : part.assemble = .ok assembled) (route : Route) :
    ∃ build, part.around route = .ok build ∧
      ∀ inner, build inner = .ok (assembled.stack ++ inner) := by
  cases route with
  | new =>
      refine ⟨part.new, rfl, fun inner => ?_⟩
      rw [new_eq, accepted]
      rfl
  | layer =>
      refine ⟨fun inner => .ok (assembled.stack ++ inner), ?_, fun inner => rfl⟩
      rw [around, layer_eq, accepted]
      rfl

/-- Whatever is built by a route is the part's layers around the inner stack. -/
theorem assemble_of_around {part : Part} {route : Route} {build : Stack → Except LabelError Stack}
    (made : part.around route = .ok build) {inner stack : Stack} (built : build inner = .ok stack) :
    ∃ assembled, part.assemble = .ok assembled ∧ stack = assembled.stack ++ inner := by
  cases hassemble : part.assemble with
  | error cause =>
      cases route with
      | new =>
          cases made
          rw [new_eq, hassemble] at built
          cases built
      | layer =>
          rw [around, layer_eq, hassemble] at made
          cases made
  | ok assembled =>
      obtain ⟨same, hsame, hbuild⟩ := around_ok hassemble route
      cases hsame.symm.trans made
      rw [hbuild] at built
      cases built
      exact ⟨assembled, rfl, rfl⟩

theorem byHand_ok {parts : List (Part × Route)} {assembled : Assembled}
    (accepted : Assembled.ofParts (parts.map Prod.fst) = .ok assembled) :
    ∃ build, byHand parts = .ok build ∧
      ∀ inner, build inner = .ok (assembled.stack ++ inner) := by
  induction parts generalizing assembled with
  | nil =>
      cases accepted
      exact ⟨.ok, rfl, fun inner => rfl⟩
  | cons head inside ih =>
      obtain ⟨part, route⟩ := head
      obtain ⟨outer, inner, houter, hinner, hstack⟩ := Assembled.ofParts_cons accepted
      obtain ⟨buildInner, hbuildInner, hinside⟩ := ih hinner
      obtain ⟨buildOuter, hbuildOuter, houtside⟩ := around_ok houter route
      refine ⟨fun stack => do buildOuter (← buildInner stack), ?_, fun stack => ?_⟩
      · rw [byHand, hbuildInner, hbuildOuter]
        rfl
      · show (buildInner stack >>= buildOuter) = _
        rw [hinside, hstack, List.append_assoc]
        exact houtside (inner.stack ++ stack)

end Part

namespace Bundle

/-- The decorators that a bundle consists of, by hand. -/
def parts (inFlight : Gauge) (requests : CounterFamily) (duration events : HistogramFamily) :
    List Part :=
  [.inFlight (.gauge inFlight), .count (.family requests), .events (.family events),
   .duration (.family duration)]

/-- A bundle that is accepted is accepted as its decorators, and they come to its layers. -/
theorem ofParts_parts {bundle : Bundle} {inFlight : Gauge} {requests : CounterFamily}
    {duration events : HistogramFamily}
    (accepted : ofFamilies inFlight requests duration events = .ok bundle) :
    ∃ assembled, Assembled.ofParts (parts inFlight requests duration events) = .ok assembled ∧
      assembled.stack = bundle.layers := by
  obtain ⟨requestsOrder, durationOrder, hooks, hrequests, hduration, hevents, rfl⟩ :=
    ofFamilies_ok accepted
  simp only [parts, Assembled.ofParts, Part.assemble, Part.recording, Recorder.names,
    CounterSink.names, ObserverSink.names, hrequests, hduration, hevents]
  exact ⟨_, rfl, rfl⟩

end Bundle

end Telemetry
