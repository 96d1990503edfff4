/-
One dispatched request, as an onlooker knows it.

An onlooker who watches the steps of traffic and their replies, and cannot look into a
stage, still knows of every dispatched request through which layers it went, when, what
each look at it has shown and which events were reported of it.  That is a `Journey`.

A journey settles all there is to know about the request: the stages that its layers
have now (`stages`), and everything that was done for it so far (`deeds`).  Both come
apart into one piece for each layer, and a layer's piece (`Layer.share`) depends on no
other layer.  The share of a gauge or of a recorder is decided by a single look:  the
first that shows a response lowers the gauge, and the first that shows anything but
pending settles the recording.
-/
import Mathlib.Data.List.Perm.Basic
import Telemetry.Proofs.Steps

namespace Telemetry

open scoped List

/-- What a look has shown, and when. -/
abbrev Sight := Instant × Http.Progress

/-- Whether a sight shows no result yet. -/
def Sight.isPending (sight : Sight) : Bool :=
  match sight.2 with
  | .pending => true
  | .answered _ | .failed _ => false

/-- Whether a sight shows a response. -/
def Sight.isAnswer (sight : Sight) : Bool :=
  match sight.2 with
  | .answered _ => true
  | .pending | .failed _ => false

/-- One dispatched request, as an onlooker knows it. -/
structure Journey where
  id : String
  /-- The layers that it went through. -/
  stack : Stack
  /-- The request as it was handed in. -/
  request : Request
  /-- When it was handed in. -/
  start : Instant
  /-- What each look at it has shown, in order. -/
  sights : List Sight
  /-- The events that were reported of it, each with its instant, in order. -/
  reports : List (Instant × Event)

/-! ### A stage along the looks at a request -/

namespace Stage

/-- The stage that is left after some looks. -/
def afterEach (sights : List Sight) (stage : Stage) : Stage :=
  sights.foldl (fun stage sight => stage.after sight.2) stage

/-- What a stage does about some looks, one after the other. -/
def story : List Sight → Stage → List Effect
  | [], _ => []
  | sight :: rest, stage => stage.does sight.2 sight.1 ++ story rest (stage.after sight.2)

theorem story_append (front back : List Sight) (stage : Stage) :
    story (front ++ back) stage = story front stage ++ story back (stage.afterEach front) := by
  induction front generalizing stage with
  | nil => rfl
  | cons sight rest ih =>
      rw [List.cons_append, story, story, ih, List.append_assoc]
      rfl

theorem story_spent_gauge (sights : List Sight) : story sights (gauge none) = [] := by
  induction sights with
  | nil => rfl
  | cons sight rest ih =>
      obtain ⟨now, seen⟩ := sight
      cases seen <;> simpa [story, does, after] using ih

theorem story_spent_recording (sights : List Sight) : story sights (recording none) = [] := by
  induction sights with
  | nil => rfl
  | cons sight rest ih =>
      obtain ⟨now, seen⟩ := sight
      cases seen <;> simpa [story, does, after] using ih

theorem afterEach_spent_gauge (sights : List Sight) :
    (gauge none).afterEach sights = gauge none := by
  induction sights with
  | nil => rfl
  | cons sight rest ih =>
      obtain ⟨now, seen⟩ := sight
      cases seen <;> exact ih

theorem afterEach_spent_recording (sights : List Sight) :
    (recording none).afterEach sights = recording none := by
  induction sights with
  | nil => rfl
  | cons sight rest ih =>
      obtain ⟨now, seen⟩ := sight
      cases seen <;> exact ih

/-- A gauge is raised in its stage until a look shows a response. -/
theorem afterEach_gauge (sights : List Sight) (sink : GaugeSink) :
    (gauge (some sink)).afterEach sights
      = gauge (if sights.any Sight.isAnswer then none else some sink) := by
  induction sights with
  | nil => rfl
  | cons sight rest ih =>
      obtain ⟨now, seen⟩ := sight
      cases seen with
      | pending => exact ih
      | failed error => exact ih
      | answered response => exact afterEach_spent_gauge rest

/-- A recording is due until a look shows a result, and is not changed meanwhile. -/
theorem afterEach_recording (sights : List Sight) (due : Recording) :
    (recording (some due)).afterEach sights
      = recording (if sights.all Sight.isPending then some due else none) := by
  induction sights with
  | nil => rfl
  | cons sight rest ih =>
      obtain ⟨now, seen⟩ := sight
      cases seen with
      | pending => exact ih
      | answered response => exact afterEach_spent_recording rest
      | failed error => exact afterEach_spent_recording rest

/-- A raised gauge is lowered once, by the first response to be seen; failures before
that leave it as it is. -/
theorem story_gauge (sights : List Sight) (sink : GaugeSink) :
    story sights (gauge (some sink)) = if sights.any Sight.isAnswer then [.lower sink] else [] := by
  induction sights with
  | nil => rfl
  | cons sight rest ih =>
      obtain ⟨now, seen⟩ := sight
      cases seen with
      | pending => exact ih
      | failed error => exact ih
      | answered response =>
          show [Effect.lower sink] ++ story rest (gauge none) = [.lower sink]
          rw [story_spent_gauge, List.append_nil]

/-- A recording that is due is settled by the first look that shows a result, whatever
later looks show. -/
theorem story_recording (sights : List Sight) (due : Recording) :
    story sights (recording (some due))
      = match sights.find? fun sight => !sight.isPending with
        | none => []
        | some first => settle due first.1 first.2 := by
  induction sights with
  | nil => rfl
  | cons sight rest ih =>
      obtain ⟨now, seen⟩ := sight
      cases seen with
      | pending => simpa [story, does, after, settle, Sight.isPending] using ih
      | failed error => simp [story, does, after, Sight.isPending, story_spent_recording]
      | answered response => simp [story, does, after, Sight.isPending, story_spent_recording]

end Stage

/-! ### The share of a layer in what is done for a request -/

/-- All that a layer itself does for a request that was handed in at `start` and has
been looked at: what it does about the call, and what its stage does about the looks.
What its listener does is not counted here. -/
def Layer.share (start : Instant) (method : String) (sights : List Sight) (layer : Layer) :
    List Effect :=
  layer.opening ++ (layer.stages start method).flatMap (Stage.story sights)

/-- What a layer itself does about one more look at such a request. -/
def Layer.onSight (start : Instant) (method : String) (sights : List Sight) (sight : Sight)
    (layer : Layer) : List Effect :=
  ((layer.stages start method).map (Stage.afterEach sights)).flatMap
    (Stage.does sight.2 sight.1)

namespace Journey

/-- The label value of the request's method. -/
def method (journey : Journey) : String := journey.request.method.label

/-- The request as the transport was given it. -/
def reached (journey : Journey) : Request := journey.stack.reached journey.start journey.request

/-- The stages that the layers have now, outermost first. -/
def stages (journey : Journey) : List Stage :=
  (journey.stack.stages journey.start journey.method).map (Stage.afterEach journey.sights)

/-- The first sight that shows a result, if there was one. -/
def settled? (journey : Journey) : Option Sight :=
  journey.sights.find? fun sight => !sight.isPending

/-- Whether some look has shown a response. -/
def answered (journey : Journey) : Bool := journey.sights.any Sight.isAnswer

/-- What the layers have done for the request. -/
def recorded (journey : Journey) : List Effect :=
  journey.stack.flatMap (Layer.share journey.start journey.method journey.sights)

/-- What listeners have done about the events of the request. -/
def told (journey : Journey) : List Effect := journey.reached.heard journey.reports

/-- All that was done for the request. -/
def deeds (journey : Journey) : List Effect := journey.recorded ++ journey.told

theorem share_inFlight (journey : Journey) (sink : GaugeSink) :
    (Layer.inFlight sink).share journey.start journey.method journey.sights
      = .raise sink :: if journey.answered then [.lower sink] else [] := by
  have hstory := Stage.story_gauge journey.sights sink
  simp only [Layer.share, Layer.opening, Layer.stages, List.flatMap_cons, List.flatMap_nil,
    List.append_nil, hstory]
  rfl

theorem share_record (journey : Journey) (recorder : Recorder) (order : LabelOrder) :
    (Layer.record recorder order).share journey.start journey.method journey.sights
      = match journey.settled? with
        | none => []
        | some first =>
          Stage.settle ⟨recorder, order, journey.method, journey.start⟩ first.1 first.2 := by
  simp [Layer.share, Layer.opening, Layer.stages, Stage.story_recording, settled?]

theorem share_trace (journey : Journey) (hooks : HookTable) :
    (Layer.trace hooks).share journey.start journey.method journey.sights = [] := rfl

/-! ### One more look, one more report -/

/-- The journey with one more look. -/
def see (sight : Sight) (journey : Journey) : Journey :=
  { journey with sights := journey.sights ++ [sight] }

/-- The journey with one more report. -/
def hear (report : Instant × Event) (journey : Journey) : Journey :=
  { journey with reports := journey.reports ++ [report] }

/-- A change that leaves a journey as it set out. -/
structure Keeps (change : Journey → Journey) : Prop where
  id : ∀ journey, (change journey).id = journey.id
  stack : ∀ journey, (change journey).stack = journey.stack
  request : ∀ journey, (change journey).request = journey.request

theorem keeps_see (sight : Sight) : Keeps (see sight) :=
  ⟨fun _ => rfl, fun _ => rfl, fun _ => rfl⟩

theorem keeps_hear (report : Instant × Event) : Keeps (hear report) :=
  ⟨fun _ => rfl, fun _ => rfl, fun _ => rfl⟩

theorem stages_see (journey : Journey) (sight : Sight) :
    (journey.see sight).stages = journey.stages.map fun stage => stage.after sight.2 := by
  simp only [stages, see, method, List.map_map]
  refine List.map_congr_left fun stage _ => ?_
  simp only [Stage.afterEach, List.foldl_append, List.foldl_cons, List.foldl_nil,
    Function.comp_apply]

/-- A look adds, layer by layer, what the stages do about it. -/
theorem deeds_see (journey : Journey) (sight : Sight) :
    (journey.see sight).deeds
      ~ journey.deeds ++ journey.stages.flatMap (Stage.does sight.2 sight.1) := by
  have hstory : Stage.story (journey.sights ++ [sight]) = fun stage =>
      Stage.story journey.sights stage
        ++ (stage.afterEach journey.sights).does sight.2 sight.1 := by
    funext stage
    rw [Stage.story_append, Stage.story, Stage.story, List.append_nil]
  have hlayer : ∀ layer : Layer,
      layer.share journey.start journey.method (journey.sights ++ [sight])
        ~ layer.share journey.start journey.method journey.sights
          ++ layer.onSight journey.start journey.method journey.sights sight := by
    intro layer
    simp only [Layer.share, Layer.onSight, hstory, List.flatMap_map, List.append_assoc]
    exact (List.flatMap_append_perm _ _ _).symm.append_left _
  have hstages : journey.stages.flatMap (Stage.does sight.2 sight.1)
      = journey.stack.flatMap
          (Layer.onSight journey.start journey.method journey.sights sight) := by
    simp only [stages, Stack.stages, List.map_flatMap, List.flatMap_assoc]
    rfl
  have hrecorded : (journey.see sight).recorded
      ~ journey.recorded ++ journey.stages.flatMap (Stage.does sight.2 sight.1) := by
    rw [hstages]
    exact (List.Perm.flatMap_left _ fun layer _ => hlayer layer).trans
      (List.flatMap_append_perm _ _ _).symm
  have htold : (journey.see sight).told = journey.told := rfl
  calc (journey.see sight).deeds
      = (journey.see sight).recorded ++ journey.told := by rw [deeds, htold]
    _ ~ (journey.recorded ++ journey.stages.flatMap (Stage.does sight.2 sight.1))
          ++ journey.told := hrecorded.append_right _
    _ ~ journey.deeds ++ journey.stages.flatMap (Stage.does sight.2 sight.1) := by
        rw [deeds, List.append_assoc, List.append_assoc]
        exact List.perm_append_comm.append_left _

theorem deeds_hear (journey : Journey) (report : Instant × Event) :
    (journey.hear report).deeds
      = journey.deeds ++ journey.reached.leaves.flatMap (Leaf.heard report.2 report.1) := by
  have htold : (journey.hear report).told
      = journey.told ++ journey.reached.leaves.flatMap (Leaf.heard report.2 report.1) := by
    simp [told, hear, Request.heard, reached]
  have hrecorded : (journey.hear report).recorded = journey.recorded := rfl
  rw [deeds, deeds, htold, hrecorded, List.append_assoc]

end Journey

end Telemetry
