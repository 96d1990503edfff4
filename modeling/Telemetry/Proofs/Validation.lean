/-
The check of a metric's labels is exact.

A list of names is accepted if each of them is the name of a label and none occurs twice.
Otherwise some name offends: it is no label's name, or it was there before.  The check
stops at the first name that offends and says what is wrong with it, and never looks at
the names behind.

Two facts carry this.  Reading `front ++ back` is reading `back` behind what was read of
`front`, so the check of a list is settled by a front that is accepted and the one name
behind it.  And a list that is not accepted has such a front: take names away from its end
until nothing offends any more.

A sink may be handed over as it is, or by any number of references to it.
-/
import Telemetry.Proofs.Slots

namespace Telemetry

/-! ### What is wrong with names -/

/-- What is wrong with a name that stands behind some others. -/
inductive Offence (earlier : List String) (name : String) : LabelError → Prop
  /-- It is no label's name. -/
  | unsupported (hcode : name ≠ "code") (hmethod : name ≠ "method") :
    Offence earlier name (.unsupported name)
  /-- It was there before. -/
  | duplicate (hearlier : name ∈ earlier) : Offence earlier name (.duplicate name)

/-- The first place at which something is wrong with some names, and what it is. -/
structure FirstOffence (names : List String) (place : Nat) (cause : LabelError) : Prop where
  offends : ∃ name, names[place]? = some name ∧ Offence (names.take place) name cause
  least : ∀ earlier < place, ∀ name cause, names[earlier]? = some name →
    ¬ Offence (names.take earlier) name cause

/-- Whether names may be declared: only names of labels, and none of them twice. -/
def Declarable (names : List String) : Prop :=
  names.Nodup ∧ ∀ name ∈ names, name = "code" ∨ name = "method"

/-- Among names that may be declared, none offends. -/
theorem Declarable.not_offence {names : List String} (h : Declarable names) {place : Nat}
    {name : String} (hname : names[place]? = some name) (cause : LabelError) :
    ¬ Offence (names.take place) name cause := by
  obtain ⟨hplace, hget⟩ := List.getElem?_eq_some_iff.mp hname
  intro hoffence
  cases hoffence with
  | unsupported hcode hmethod =>
      rcases h.2 name (List.mem_of_getElem? hname) with hsame | hsame
      · exact hcode hsame
      · exact hmethod hsame
  | duplicate hearlier =>
      have hsplit : names.take place ++ name :: names.drop (place + 1) = names := by
        rw [← hget, List.getElem_cons_drop, List.take_append_drop]
      have hnodup := h.1
      rw [← hsplit, List.nodup_append] at hnodup
      exact hnodup.2.2 name hearlier name (List.mem_cons_self) rfl

/-- One more name may be declared unless it offends. -/
theorem Declarable.snoc {names : List String} (h : Declarable names) {name : String}
    (hfine : ∀ cause, ¬ Offence names name cause) : Declarable (names ++ [name]) := by
  refine ⟨?_, ?_⟩
  · rw [List.nodup_append]
    refine ⟨h.1, List.nodup_singleton _, ?_⟩
    rintro other hother last hlast rfl
    rw [List.mem_singleton.mp hlast] at hother
    exact hfine _ (.duplicate hother)
  · intro other hother
    rcases List.mem_append.mp hother with hold | hnew
    · exact h.2 other hold
    · rw [List.mem_singleton.mp hnew]
      by_contra hneither
      exact hfine _ (.unsupported (fun hsame => hneither (.inl hsame))
        fun hsame => hneither (.inr hsame))

/-- Names that may not be declared have a front that may, with a name behind it that
offends. -/
theorem declarable_or_offence (names : List String) :
    Declarable names ∨ ∃ front name back cause,
      names = front ++ name :: back ∧ Declarable front ∧ Offence front name cause := by
  induction names using List.reverseRecOn with
  | nil => exact .inl ⟨List.nodup_nil, fun _ h => absurd h (List.not_mem_nil)⟩
  | append_singleton init last ih =>
      rcases ih with hinit | ⟨front, name, back, cause, rfl, hfront, hoffence⟩
      · by_cases hfine : ∀ cause, ¬ Offence init last cause
        · exact .inl (hinit.snoc hfine)
        · obtain ⟨cause, hoffence⟩ := not_forall_not.mp hfine
          exact .inr ⟨init, last, [], cause, rfl, hinit, hoffence⟩
      · exact .inr ⟨front, name, back ++ [last], cause, by simp, hfront, hoffence⟩

/-- The first offence is the one behind the longest front that may be declared. -/
theorem firstOffence_iff {names : List String} {place : Nat} {cause : LabelError} :
    FirstOffence names place cause ↔ ∃ front name back,
      names = front ++ name :: back ∧ front.length = place ∧ Declarable front ∧
        Offence front name cause := by
  constructor
  · rintro ⟨⟨name, hname, hoffence⟩, hleast⟩
    obtain ⟨hplace, hget⟩ := List.getElem?_eq_some_iff.mp hname
    refine ⟨names.take place, name, names.drop (place + 1), ?_, by simp; omega, ?_, hoffence⟩
    · rw [← hget, List.getElem_cons_drop, List.take_append_drop]
    · rcases declarable_or_offence (names.take place) with
        hfront | ⟨front, other, back, otherCause, hsplit, -, hother⟩
      · exact hfront
      · -- An offence further in front would come first.
        exfalso
        have hlength : front.length + (back.length + 1) = place := by
          have hboth := congrArg List.length hsplit
          rw [List.length_take, Nat.min_eq_left (Nat.le_of_lt hplace), List.length_append,
            List.length_cons] at hboth
          exact hboth.symm
        have hnames : names = front ++ other :: (back ++ names.drop place) := by
          rw [← List.cons_append, ← List.append_assoc, ← hsplit, List.take_append_drop]
        have hthere : names[front.length]? = some other := by rw [hnames]; simp
        have htake : names.take front.length = front := by rw [hnames]; simp
        refine hleast front.length (by omega) other otherCause hthere ?_
        rw [htake]
        exact hother
  · rintro ⟨front, name, back, rfl, rfl, hfront, hoffence⟩
    refine ⟨⟨name, by simp, by simpa using hoffence⟩, ?_⟩
    intro earlier hearlier other otherCause hother
    rw [List.getElem?_append_left hearlier] at hother
    rw [List.take_append_of_le_length (Nat.le_of_lt hearlier)]
    exact hfront.not_offence hother otherCause

/-! ### What the check makes of them -/

theorem Label.ofName_supported {name : String} (h : name = "code" ∨ name = "method") :
    ∃ label, Label.ofName name = .ok label := by
  rcases h with rfl | rfl
  · exact ⟨.code, by decide⟩
  · exact ⟨.method, by decide⟩

theorem Label.ofName_unsupported {name : String} (hcode : name ≠ "code")
    (hmethod : name ≠ "method") : Label.ofName name = .error (.unsupported name) := by
  simp [ofName, Label.name, hcode, hmethod]

namespace LabelOrder

theorem names_push (order : LabelOrder) {label : Label} (hfresh : label ∉ order.labels) :
    (order.push label hfresh).names = order.names ++ [label.name] := by
  simp [names, push]

theorem mem_names (order : LabelOrder) (label : Label) :
    label.name ∈ order.names ↔ label ∈ order.labels := by
  rw [names, List.mem_map]
  constructor
  · rintro ⟨other, hother, hname⟩
    cases label <;> cases other <;> simp_all [Label.name]
  · exact fun h => ⟨label, h, rfl⟩

/-- The names of an order may be declared. -/
theorem declarable_names (order : LabelOrder) : Declarable order.names := by
  refine ⟨?_, ?_⟩
  · rw [names, List.nodup_map_iff_inj_on order.nodup]
    intro label _ other _ hname
    cases label <;> cases other <;> simp_all [Label.name]
  · intro name hname
    obtain ⟨label, -, rfl⟩ := List.mem_map.mp hname
    cases label with
    | code => exact .inl rfl
    | method => exact .inr rfl

theorem checkFrom_append (order : LabelOrder) (front back : List String) :
    order.checkFrom (front ++ back)
      = order.checkFrom front >>= fun read => read.checkFrom back := by
  induction front generalizing order with
  | nil => rfl
  | cons name rest ih =>
      rw [List.cons_append, checkFrom, checkFrom]
      cases Label.ofName name with
      | error cause => rfl
      | ok label =>
          by_cases hfresh : label ∈ order.labels
          · simp only [dif_pos hfresh]
            rfl
          · simp only [dif_neg hfresh]
            exact ih _

theorem checkFrom_declarable {order : LabelOrder} {names : List String}
    (h : Declarable (order.names ++ names)) : ∃ checked, order.checkFrom names = .ok checked := by
  induction names generalizing order with
  | nil => exact ⟨order, rfl⟩
  | cons name rest ih =>
      obtain ⟨label, hlabel⟩ := Label.ofName_supported (h.2 name (by simp))
      have hname : label.name = name := Label.name_ofName hlabel
      have hfresh : label ∉ order.labels := by
        rw [← order.mem_names, hname]
        intro hmem
        exact (List.nodup_append.mp h.1).2.2 name hmem name (List.mem_cons_self) rfl
      have hpush : Declarable ((order.push label hfresh).names ++ rest) := by
        rw [names_push, hname, List.append_assoc]
        exact h
      obtain ⟨checked, hchecked⟩ := ih hpush
      exact ⟨checked, by rw [checkFrom, hlabel]; simp only [dif_neg hfresh]; exact hchecked⟩

theorem check_declarable {names : List String} (h : Declarable names) :
    ∃ order, check names = .ok order :=
  checkFrom_declarable h

/-- A name that offends is refused, whatever stands behind it. -/
theorem check_offence {front : List String} (hfront : Declarable front) {name : String}
    {cause : LabelError} (hoffence : Offence front name cause) (back : List String) :
    check (front ++ name :: back) = .error cause := by
  obtain ⟨order, horder⟩ := check_declarable hfront
  have hread : check (front ++ name :: back) = order.checkFrom (name :: back) := by
    have happend := checkFrom_append ⟨[], by simp⟩ front (name :: back)
    rw [check] at horder ⊢
    rw [happend, horder]
    rfl
  rw [hread, checkFrom]
  cases hoffence with
  | unsupported hcode hmethod => rw [Label.ofName_unsupported hcode hmethod]
  | duplicate hearlier =>
      obtain ⟨label, hlabel⟩ := Label.ofName_supported (hfront.2 name hearlier)
      have hmem : label ∈ order.labels := by
        rw [← order.mem_names, Label.name_ofName hlabel, names_check horder]
        exact hearlier
      rw [hlabel]
      simp only [dif_pos hmem]

theorem check_ok_iff (names : List String) :
    (∃ order, check names = .ok order) ↔ Declarable names := by
  constructor
  · rintro ⟨order, horder⟩
    rw [← names_check horder]
    exact order.declarable_names
  · exact check_declarable

theorem check_error_iff (names : List String) (cause : LabelError) :
    check names = .error cause ↔ ∃ place, FirstOffence names place cause := by
  constructor
  · intro herror
    rcases declarable_or_offence names with
      hdeclarable | ⟨front, name, back, other, rfl, hfront, hoffence⟩
    · obtain ⟨order, horder⟩ := check_declarable hdeclarable
      rw [horder] at herror
      cases herror
    · rw [check_offence hfront hoffence back] at herror
      cases herror
      exact ⟨front.length, firstOffence_iff.mpr ⟨front, name, back, rfl, rfl, hfront, hoffence⟩⟩
  · rintro ⟨place, hfirst⟩
    obtain ⟨front, name, back, rfl, -, hfront, hoffence⟩ := firstOffence_iff.mp hfirst
    exact check_offence hfront hoffence back

end LabelOrder

/-! ### The same in two places -/

namespace LabelSlots

/-- The labels in the places, in order. -/
def labels (slots : LabelSlots) : List Label := slots.toList.filterMap id

/-- Whether one of the places holds the status code. -/
def hasCode (slots : LabelSlots) : Bool := slots.contains (some .code)

/-- Whether one of the places holds the method. -/
def hasMethod (slots : LabelSlots) : Bool := slots.contains (some .method)

end LabelSlots

namespace LabelOrder

theorem labels_slotted (order : LabelOrder) : order.slotted.labels = order.labels := by
  obtain hnone | ⟨one, hone⟩ | ⟨first, second, -, htwo⟩ := order.labels_cases
  · simp [LabelSlots.labels, slotted, hnone]
  · simp [LabelSlots.labels, slotted, hone]
  · simp [LabelSlots.labels, slotted, htwo]

theorem hasCode_slotted (order : LabelOrder) : order.slotted.hasCode = order.hasCode := by
  rw [LabelSlots.hasCode, hasCode, Bool.eq_iff_iff]
  simp [mem_slotted]

theorem hasMethod_slotted (order : LabelOrder) : order.slotted.hasMethod = order.hasMethod := by
  rw [LabelSlots.hasMethod, hasMethod, Bool.eq_iff_iff]
  simp [mem_slotted]

end LabelOrder

namespace LabelSlots

theorem check_ok (names : List String) (slots : LabelSlots) :
    check names = .ok slots ↔
      ∃ order, LabelOrder.check names = .ok order ∧ order.slotted = slots := by
  rw [LabelOrder.slotted_check]
  cases LabelOrder.check names <;> simp

theorem check_refused (names : List String) (cause : LabelError) :
    check names = .error (.refused cause) ↔ LabelOrder.check names = .error cause := by
  rw [LabelOrder.slotted_check]
  cases LabelOrder.check names <;> simp

theorem check_inBounds (names : List String) : check names ≠ .error .outOfBounds := by
  rw [LabelOrder.slotted_check]
  cases LabelOrder.check names <;> simp

theorem check_accepts (names : List String) :
    (∃ slots, check names = .ok slots) ↔ Declarable names := by
  rw [← LabelOrder.check_ok_iff]
  constructor
  · rintro ⟨slots, hslots⟩
    obtain ⟨order, horder, -⟩ := (check_ok names slots).mp hslots
    exact ⟨order, horder⟩
  · rintro ⟨order, horder⟩
    exact ⟨order.slotted, (check_ok names order.slotted).mpr ⟨order, horder, rfl⟩⟩

/-- What was accepted has the declared names, in order. -/
theorem check_names {names : List String} {slots : LabelSlots} (h : check names = .ok slots) :
    slots.labels.map Label.name = names ∧
      (slots.hasCode = true ↔ "code" ∈ names) ∧ (slots.hasMethod = true ↔ "method" ∈ names) := by
  obtain ⟨order, horder, rfl⟩ := (check_ok names slots).mp h
  rw [order.labels_slotted, order.hasCode_slotted, order.hasMethod_slotted]
  have hnames : order.names = names := LabelOrder.names_check horder
  refine ⟨hnames, ?_, ?_⟩
  · rw [← hnames, LabelOrder.hasCode, List.contains_iff_mem]
    exact (order.mem_names .code).symm
  · rw [← hnames, LabelOrder.hasMethod, List.contains_iff_mem]
    exact (order.mem_names .method).symm

/-- What stands behind the first offence makes no difference. -/
theorem check_firstOffence {names : List String} {place : Nat} {cause : LabelError}
    (hfirst : FirstOffence names place cause) (rest : List String) :
    check (names.take (place + 1) ++ rest) = .error (.refused cause) := by
  obtain ⟨front, name, back, rfl, rfl, hfront, hoffence⟩ := firstOffence_iff.mp hfirst
  have htake : (front ++ name :: back).take (front.length + 1) = front ++ [name] := by
    rw [List.take_append, List.take_of_length_le (Nat.le_succ _), Nat.add_sub_cancel_left]
    rfl
  rw [check_refused, htake, List.append_assoc]
  exact LabelOrder.check_offence hfront hoffence rest

/-- The labels in the places are those of the order that is read from the same names. -/
theorem check_labels (names : List String) (order : LabelOrder) :
    LabelOrder.check names = .ok order ↔
      ∃ slots, check names = .ok slots ∧ slots.labels = order.labels := by
  constructor
  · intro horder
    exact ⟨order.slotted, (check_ok names order.slotted).mpr ⟨order, horder, rfl⟩,
      order.labels_slotted⟩
  · rintro ⟨slots, hslots, hlabels⟩
    obtain ⟨other, hother, rfl⟩ := (check_ok names slots).mp hslots
    rw [other.labels_slotted] at hlabels
    rw [hother, LabelOrder.eq_of_names (congrArg (List.map Label.name) hlabels)]

end LabelSlots

/-! ### How a sink is handed over -/

/-- A sink that is handed over, as it is or by reference. -/
inductive Handed (σ : Type)
  | direct (sink : σ)
  /-- A reference to what is handed over. -/
  | borrowed (handed : Handed σ)
  /-- A reference that is shared among several owners. -/
  | shared (handed : Handed σ)

namespace Handed

variable {σ : Type}

/-- The sink itself. -/
def sink : Handed σ → σ
  | direct sink => sink
  | borrowed handed | shared handed => handed.sink

/-- The names that what is handed over declares: a reference passes the question on. -/
def names (declared : σ → List String) : Handed σ → List String
  | direct sink => declared sink
  | borrowed handed | shared handed => handed.names declared

theorem names_eq (declared : σ → List String) (handed : Handed σ) :
    handed.names declared = declared handed.sink := by
  induction handed with
  | direct sink => rfl
  | borrowed handed ih => exact ih
  | shared handed ih => exact ih

end Handed

/--
**The check of a metric's labels is exact.**

However a sink is handed over, the check reads the names that the sink declares into two
places and never asks for a third.  It accepts exactly the names that are `code` or
`method`, none of them twice; then the labels in the places are named as declared, in
order.  Otherwise the cause is that of the first name that offends, whatever follows it.
Without the places the check comes to the same.
-/
theorem LabelSlots.check_exact {σ : Type} (declared : σ → List String) (handed : Handed σ) :
    let names := declared handed.sink
    LabelSlots.check (handed.names declared) = LabelSlots.check names ∧
    LabelSlots.check names ≠ .error .outOfBounds ∧
    ((∃ slots, LabelSlots.check names = .ok slots) ↔
      names.Nodup ∧ ∀ name ∈ names, name = "code" ∨ name = "method") ∧
    (∀ slots, LabelSlots.check names = .ok slots →
      slots.labels.map Label.name = names ∧
        (slots.hasCode = true ↔ "code" ∈ names) ∧ (slots.hasMethod = true ↔ "method" ∈ names)) ∧
    (∀ cause, LabelSlots.check names = .error (.refused cause) ↔
      ∃ place, FirstOffence names place cause) ∧
    (∀ place cause, FirstOffence names place cause → ∀ rest,
      LabelSlots.check (names.take (place + 1) ++ rest) = .error (.refused cause)) ∧
    ∀ order, LabelOrder.check names = .ok order ↔
      ∃ slots, LabelSlots.check names = .ok slots ∧ slots.labels = order.labels := by
  intro names
  refine ⟨by rw [handed.names_eq], check_inBounds names, check_accepts names,
    fun slots hslots => check_names hslots, fun cause => ?_,
    fun place cause hfirst rest => check_firstOffence hfirst rest, check_labels names⟩
  rw [check_refused, LabelOrder.check_error_iff]

end Telemetry
