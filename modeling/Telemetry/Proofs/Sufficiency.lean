/-
Labels that were checked once are right on every request.

A sink's label names are looked at when a decorator is made for it, and never again.  From
then on values are laid out by place: a recorder lays them out in the order that the check
left behind, and an observer of events is given one value, the event's.  That is enough.
On every occasion on which such a decorator does anything, the values that it hands to its
sink are, name by name, the values that the declared names have on that occasion: the
status for `code`, the method in lower case for `method`, the phase for `event`.

The argument goes through `Suited`, which says of a layer that its order, or its hooks, go
with its sink.  Both routes to a layer, and all bundles, lead to suited layers, and what a
suited layer does in each kind of round can be read off the rounds.
-/
import Telemetry.Proofs.Contribution
import Telemetry.Proofs.Dispatch
import Telemetry.Proofs.Rounds
import Telemetry.Proofs.Routes
import Telemetry.Proofs.Slots

namespace Telemetry

/-! ### The values that names have on an occasion -/

/-- What a layer does something about. -/
inductive Occasion
  /-- A request is handed in. -/
  | handed
  /-- A request of some method is seen to have come to this. -/
  | seen (method : Http.Method) (progress : Http.Progress)
  /-- An event is reported. -/
  | reported (event : Event)

namespace Occasion

/-- The value that a label name has on the occasion, if it has one. -/
def value? : Occasion → String → Option String
  | seen method (.answered response), name =>
    if name = Label.code.name then some response.status.text
    else if name = Label.method.name then some method.lowered
    else none
  | reported event, name => if name = eventLabel then some event.phase.name else none
  | handed, _ | seen .., _ => none

/-- Label names, each with the value that it has on the occasion. -/
def labels (occasion : Occasion) (names : List String) : Option Labels :=
  names.mapM fun name => (occasion.value? name).map (Prod.mk name)

/-- Whether values, paired with names as a sink pairs them, are those that the names have
on the occasion. -/
def Supplies (occasion : Occasion) (names values : List String) : Prop :=
  ∃ labels, occasion.labels names = some labels ∧ Labels.of names values = .ok labels

end Occasion

/-- Whether the values that an effect hands to a sink are those that the names declared by
the sink have on the occasion. -/
def Effect.Supplied (occasion : Occasion) : Effect → Prop
  | .count sink values => occasion.Supplies sink.names values
  | .observe sink _ values => occasion.Supplies sink.names values
  | _ => True

/-- Whether what an effect adds to a family goes to the series of the declared names with
the values that they have on the occasion. -/
def Effect.Stored (occasion : Occasion) : Effect → Prop
  | .count (.family family) values =>
    ∃ labels, occasion.labels family.names = some labels ∧
      ∀ store : Store, store.apply (.count (.family family) values) = .ok { store with
        counters := store.counters.alter ⟨family.id, labels⟩ fun value => value.getD 0 + 1 }
  | .observe (.family family) reading values =>
    ∃ labels, occasion.labels family.names = some labels ∧
      ∀ store : Store, store.apply (.observe (.family family) reading values) = .ok { store with
        histograms := store.histograms.alter ⟨family.id, labels⟩ fun histogram =>
          (histogram.getD (.new family.bounds)).observe reading.seconds }
  | _ => True

theorem Effect.Supplied.stored {occasion : Occasion} {effect : Effect}
    (hsupplied : effect.Supplied occasion) : effect.Stored occasion := by
  cases effect with
  | count sink values =>
      cases sink with
      | family family =>
          obtain ⟨labels, hlabels, hof⟩ := hsupplied
          have hof : Labels.of family.names values = .ok labels := hof
          refine ⟨labels, hlabels, fun store => ?_⟩
          simp only [Store.apply, Store.count, hof]
          rfl
      | probe name labels => trivial
  | observe sink reading values =>
      cases sink with
      | family family =>
          obtain ⟨labels, hlabels, hof⟩ := hsupplied
          have hof : Labels.of family.names values = .ok labels := hof
          refine ⟨labels, hlabels, fun store => ?_⟩
          simp only [Store.apply, Store.observe, hof]
          rfl
      | probe name labels => trivial
  | raise | lower | note | hear | log => trivial

/-- The values of an order are those that its names have when a response is seen. -/
theorem Occasion.supplies_order (order : LabelOrder) (method : Http.Method)
    (response : Http.Response) :
    (Occasion.seen method (.answered response)).Supplies order.names
      (order.values response.status.text method.label) := by
  have hcode : (Occasion.seen method (.answered response)).value? Label.code.name
      = some response.status.text := by simp [value?]
  have hmethod : (Occasion.seen method (.answered response)).value? Label.method.name
      = some method.label := by
    rw [method.label_eq]
    simp [value?, Label.name]
  refine ⟨order.names.zip (order.values response.status.text method.label), ?_,
    if_pos (order.length_values _ _).symm⟩
  rw [labels, LabelOrder.names, LabelOrder.values]
  induction order.labels with
  | nil => rfl
  | cons label rest ih =>
      rw [List.map_cons, List.map_cons, List.mapM_cons, ih, List.zip_cons_cons]
      cases label with
      | code => rw [hcode]; rfl
      | method => rw [hmethod]; rfl

theorem Occasion.supplies_event (event : Event) :
    (Occasion.reported event).Supplies [eventLabel] [event.phase.name] := by
  refine ⟨[(eventLabel, event.phase.name)], ?_, rfl⟩
  simp [labels, value?]

/-! ### Layers that were made for their sinks -/

namespace Layer

/-- A layer whose order, or whose hooks, go with its sink. -/
inductive Suited : Layer → Prop
  | inFlight (gauge : GaugeSink) : Suited (.inFlight gauge)
  | record {recorder : Recorder} {order : LabelOrder} (names : order.names = recorder.names) :
    Suited (.record recorder order)
  | trace {sink : ObserverSink} (names : sink.names = [eventLabel]) :
    Suited (.trace (.observing sink))

end Layer

/-- A part whose labels are checked, here or when it was made. -/
def Part.Checked : Part → Prop
  | hooks table => ∃ sink, HookTable.observeEvents sink = .ok table
  | metrics bundle => bundle.Built
  | inFlight _ | count _ | duration _ | events _ => True

/-- A layer that such a part puts around stacks, by either route. -/
def Layer.Validated (layer : Layer) : Prop :=
  ∃ part route build stack, Part.Checked part ∧ part.around route = .ok build ∧
    build [] = .ok stack ∧ layer ∈ stack

theorem Bundle.Wired.suited {bundle : Bundle} (hwired : bundle.Wired) :
    ∀ layer ∈ bundle.layers, layer.Suited := by
  intro layer hlayer
  simp only [layers, List.mem_cons, List.not_mem_nil, or_false] at hlayer
  rcases hlayer with rfl | rfl | rfl | rfl
  · exact .inFlight _
  · exact .record hwired.requests
  · obtain ⟨events, hevents, hhooks⟩ := hwired.hooks
    rw [hhooks]
    exact .trace hevents
  · exact .record hwired.duration

namespace Part

theorem suited_recording {recorder : Recorder} {assembled : Assembled}
    (accepted : recording recorder = .ok assembled) : ∀ layer ∈ assembled.stack, layer.Suited := by
  obtain ⟨order, hcheck, rfl⟩ := recording_ok accepted
  intro layer hlayer
  rw [List.mem_singleton.mp hlayer]
  exact .record (LabelOrder.names_check hcheck)

theorem Checked.suited {part : Part} (hchecked : part.Checked) {assembled : Assembled}
    (accepted : part.assemble = .ok assembled) : ∀ layer ∈ assembled.stack, layer.Suited := by
  intro layer hlayer
  cases part with
  | inFlight gauge =>
      cases accepted
      rw [List.mem_singleton.mp hlayer]
      exact .inFlight gauge
  | count sink => exact suited_recording accepted layer hlayer
  | duration sink => exact suited_recording accepted layer hlayer
  | events sink =>
      obtain ⟨hnames, rfl⟩ := events_ok accepted
      rw [List.mem_singleton.mp hlayer]
      exact .trace hnames
  | hooks table =>
      obtain ⟨sink, hevents⟩ := hchecked
      obtain ⟨hnames, rfl⟩ := HookTable.observeEvents_ok hevents
      cases accepted
      rw [List.mem_singleton.mp hlayer]
      exact .trace hnames
  | metrics bundle =>
      cases accepted
      exact (Bundle.Built.wired hchecked).suited layer hlayer

end Part

theorem Layer.Validated.suited {layer : Layer} (hvalidated : layer.Validated) : layer.Suited := by
  obtain ⟨part, route, build, stack, hchecked, made, built, hmem⟩ := hvalidated
  obtain ⟨assembled, haccepted, rfl⟩ := Part.assemble_of_around made built
  rw [List.append_nil] at hmem
  exact hchecked.suited haccepted layer hmem

/-! ### What a suited layer hands to its sink in a round -/

namespace Layer.Suited

variable {layer : Layer}

/-- Whatever a suited layer can do, a family gets as many values as it has names. -/
theorem only_fits (hsuited : layer.Suited) : layer.Only Effect.Fits := by
  cases hsuited with
  | inFlight gauge => exact ⟨trivial, trivial⟩
  | @record recorder order hnames =>
      intro code method elapsed
      have hlength : recorder.names.length = (order.values code method).length := by
        rw [order.length_values, hnames]
      cases recorder with
      | count sink =>
          cases sink with
          | family family => exact hlength
          | probe name labels => trivial
      | observe sink =>
          cases sink with
          | family family => exact hlength
          | probe name labels => trivial
  | @trace sink hnames =>
      intro phase hook hhook reading
      rw [HookTable.hook?_observing] at hhook
      cases hhook
      cases sink with
      | family family =>
          have hfamily : family.names = [eventLabel] := hnames
          show family.names.length = 1
          rw [hfamily]
          rfl
      | probe name labels => trivial

theorem supplied_opening (layer : Layer) :
    ∀ effect ∈ layer.opening, effect.Supplied .handed := by
  intro effect hmem
  cases layer with
  | inFlight gauge =>
      rw [List.mem_singleton.mp hmem]
      trivial
  | record recorder order => exact absurd hmem (List.not_mem_nil)
  | trace hooks => exact absurd hmem (List.not_mem_nil)

/-- The timer of a suited layer observes an event under the event's name. -/
theorem supplied_report (hsuited : layer.Suited) (request : Request) (start : Instant)
    (one : Instant × Event) :
    ∀ effect ∈ (request.round start one).share layer, effect.Supplied (.reported one.2) := by
  intro effect hmem
  cases hsuited with
  | inFlight gauge => exact absurd hmem (List.not_mem_nil)
  | record hnames => exact absurd hmem (List.not_mem_nil)
  | @trace sink hnames =>
      have hheard : effect ∈ (Leaf.timer (.observing sink) start).heard one.2 one.1 := by
        simpa [Request.round, Layer.timers] using hmem
      rw [Leaf.heard] at hheard
      cases hfailure : one.2.failure with
      | some error =>
          rw [hfailure] at hheard
          rw [List.mem_singleton.mp hheard]
          trivial
      | none =>
          simp only [hfailure, HookTable.hook?_observing] at hheard
          rcases List.mem_pair.mp hheard with rfl | rfl
          · trivial
          · show (Occasion.reported one.2).Supplies sink.names [one.2.phase.name]
            rw [hnames]
            exact Occasion.supplies_event one.2

/-- A recording, whenever it is made, is made with the values of the response. -/
theorem supplied_settle {recorder : Recorder} {order : LabelOrder}
    (hnames : order.names = recorder.names) (method : Http.Method) (start now : Instant)
    (progress : Http.Progress) :
    ∀ effect ∈ Stage.settle ⟨recorder, order, method.label, start⟩ now progress,
      effect.Supplied (.seen method progress) := by
  intro effect hmem
  cases progress with
  | pending => exact absurd hmem (List.not_mem_nil)
  | failed error =>
      rw [List.mem_singleton.mp hmem]
      trivial
  | answered response =>
      rcases List.mem_pair.mp hmem with rfl | rfl
      · trivial
      · have hsupplies := Occasion.supplies_order order method response
        rw [hnames] at hsupplies
        cases recorder <;> exact hsupplies

theorem supplied_look (hsuited : layer.Suited) (journey : Journey) (sight : Sight) :
    ∀ effect ∈ (journey.round sight).share layer,
      effect.Supplied (.seen journey.request.method sight.2) := by
  intro effect hmem
  cases hsuited with
  | inFlight gauge =>
      have honly : (Layer.inFlight gauge).Only
          (Effect.Supplied (.seen journey.request.method sight.2)) := ⟨trivial, trivial⟩
      exact honly.onSight (fun _ => trivial) journey sight effect hmem
  | @record recorder order hnames =>
      rw [Journey.round_record] at hmem
      by_cases hdue : journey.sights.all Sight.isPending
      · rw [if_pos hdue] at hmem
        exact supplied_settle hnames journey.request.method journey.start sight.1 sight.2 effect
          hmem
      · rw [if_neg hdue] at hmem
        exact absurd hmem (List.not_mem_nil)
  | trace hnames => exact absurd hmem (List.not_mem_nil)

end Layer.Suited

/-! ### What the layers hand to their sinks in a run -/

namespace History

/-- What each round of the next step is about. -/
def occasions (history : History) (step : Traffic.Step) : List Occasion :=
  match step, (history.traffic.step step).reply with
  | .call _ _ _ moments, .reached .. =>
    .handed :: (Moment.timeline history.traffic.now moments).map fun one => .reported one.2
  | .look id, .progress seen =>
    match history.current? id with
    | none => []
    | some journey => [.seen journey.request.method seen]
  | .report id event, .flag _ =>
    match history.current? id with
    | none => []
    | some _ => [.reported event]
  | _, _ => []

end History

/-- Whether all that validated layers hand to their sinks in a round is what the declared
names call for on an occasion, and all that they add to families goes to the series of
these names with these values. -/
def Round.Supplied (occasion : Occasion) (round : Round) : Prop :=
  ∀ layer : Layer, layer.Validated → ∀ effect ∈ round.share layer,
    effect.Supplied occasion ∧ effect.Stored occasion

theorem Round.Supplied.of {occasion : Occasion} {round : Round}
    (h : ∀ layer : Layer, layer.Suited → ∀ effect ∈ round.share layer, effect.Supplied occasion) :
    round.Supplied occasion := by
  intro layer hvalidated effect hmem
  have hsupplied := h layer hvalidated.suited effect hmem
  exact ⟨hsupplied, hsupplied.stored⟩

namespace History

theorem rounds_supplied (history : History) (step : Traffic.Step) :
    List.Forall₂ Round.Supplied (history.occasions step) (history.rounds step) := by
  unfold occasions rounds
  generalize (history.traffic.step step).reply = reply
  cases step with
  | call id place request moments =>
      cases reply with
      | reached calls reached =>
          refine .cons (.of fun layer _ => Layer.Suited.supplied_opening layer) ?_
          rw [List.forall₂_map_left_iff, List.forall₂_map_right_iff, List.forall₂_same]
          exact fun one _ => .of fun layer hsuited => hsuited.supplied_report request _ one
      | done | flag | index | readiness | progress | gone | noService => exact .nil
  | look id =>
      cases reply with
      | progress seen =>
          dsimp only
          cases history.current? id with
          | none => exact .nil
          | some journey =>
              exact .cons (.of fun layer hsuited => hsuited.supplied_look journey _) .nil
      | done | flag | index | readiness | reached | gone | noService => exact .nil
  | report id event =>
      cases reply with
      | flag listening =>
          dsimp only
          cases history.current? id with
          | none => exact .nil
          | some journey =>
              exact .cons (.of fun layer hsuited => hsuited.supplied_report _ _ _) .nil
      | done | index | readiness | reached | progress | gone | noService => exact .nil
  | advance | setReadiness | ready | copy | dropService | settle | drop =>
      cases reply <;> exact .nil

/-- **A check when a layer is made is enough for all that the layer records.**  Reading and
laying out labels never asks for a third place; in every step of every run, round by round,
each validated layer hands to its sink, name by name, what the declared names stand for; and
if all layers are validated, and the listeners of the requests give no family too many or
too few values, the store refuses nothing. -/
theorem validated_supply {traffic : Traffic} (hidle : traffic.exchanges = .empty)
    (steps : List Traffic.Step) :
    let history := (History.start traffic).run steps
    (∀ names, LabelSlots.check names
      = match LabelOrder.check names with
        | .error cause => .error (.refused cause)
        | .ok order => .ok order.slotted) ∧
    (∀ (order : LabelOrder) (code method : String),
      order.slotted.values code method = .ok (order.values code method)) ∧
    (∀ step,
      (history.traffic.step step).effects
          = (history.rounds step).flatMap (Round.effects (history.passed step)) ∧
        List.Forall₂ Round.Supplied (history.occasions step) (history.rounds step)) ∧
    ((∀ service ∈ traffic.services, ∀ layer ∈ service.stack, layer.Validated) →
      (∀ step ∈ steps, ∀ request ∈ step.request?, ∀ leaf ∈ request.leaves,
        leaf.Only Effect.Fits) →
      ∀ store : Store, ∃ after, store.applyAll history.effects = .ok after) := by
  intro history
  have hfaithful : history.Faithful := Faithful.run hidle steps
  refine ⟨LabelOrder.slotted_check, LabelOrder.slotted_values,
    fun step => ⟨hfaithful.step_effects step, history.rounds_supplied step⟩, ?_⟩
  intro hvalidated hown store
  have hjourneys := journeys_within (S := fun stack => ∀ layer ∈ stack, layer.Only Effect.Fits)
    (R := fun request => ∀ leaf ∈ request.leaves, leaf.Only Effect.Fits)
    (fun _ h => absurd h (List.not_mem_nil)) hown
    fun service hservice layer hlayer => (hvalidated service hservice layer hlayer).suited.only_fits
  exact hfaithful.accepted (fun journey hjourney => (hjourneys journey hjourney).1)
    (fun journey hjourney => (hjourneys journey hjourney).2) store

/-- A counter with the method first, made into a layer, around a bundle. -/
theorem validated_supply_swapped :
    let swapped : CounterFamily := ⟨7, ["method", "code"]⟩
    let order : LabelOrder := ⟨[.method, .code], by decide⟩
    let bundle := ((Bundle.register ⟨[], []⟩).run .empty).1
    let stack : Stack := .record (.count (.family swapped)) order :: bundle.layers
    let traffic : Traffic := ⟨.start, .ready, [⟨stack, .scripted, 0⟩], .empty⟩
    let request : Request := ⟨⟨"GET", by decide⟩, .ofString "/", .none, "", none⟩
    let response : Http.Response := ⟨⟨503, by decide, by decide⟩, .none, ""⟩
    let steps : List Traffic.Step :=
      [.call "a" 0 request [.wait ⟨5⟩, .report .wroteHeaders], .settle "a" (.answered response),
       .look "a"]
    (∀ service ∈ traffic.services, ∀ layer ∈ service.stack, layer.Validated) ∧
    ∃ after, Store.empty.applyAll ((History.start traffic).run steps).effects = .ok after := by
  intro swapped order bundle stack traffic request response steps
  have hvalidated : ∀ service ∈ traffic.services, ∀ layer ∈ service.stack, layer.Validated := by
    intro service hservice layer hlayer
    rw [List.mem_singleton.mp hservice] at hlayer
    rcases List.mem_cons.mp hlayer with rfl | hbundle
    · exact ⟨.count (.family swapped), .layer, _, _, trivial, rfl, rfl, List.mem_singleton_self _⟩
    · exact ⟨.metrics bundle, .new, _, _, .registered ⟨[], []⟩ .empty, rfl, rfl, hbundle⟩
  have hbare : ∀ step ∈ steps, ∀ handed ∈ step.request?, handed.leaves = [] := by
    intro step hstep handed hhanded
    simp only [steps, List.mem_cons, List.not_mem_nil, or_false] at hstep
    rcases hstep with rfl | rfl | rfl <;> cases hhanded
    rfl
  obtain ⟨-, -, -, haccepted⟩ := @validated_supply traffic rfl steps
  refine ⟨hvalidated, haccepted hvalidated ?_ .empty⟩
  intro step hstep handed hhanded leaf hleaf
  rw [hbare step hstep handed hhanded] at hleaf
  exact absurd hleaf (List.not_mem_nil)

end History

end Telemetry
