/-
What uses of the store come to.

The store is used by handing it effects and by reading counters.  A use that gives a
family the wrong number of label values is answered with the mismatch and leaves the store
as it was.  A session uses its store in no other way: `Session.store_step`.

What the store keeps of a family is a table of its own, from labels to series.  A use of
the family posts something under some labels of that table, and a use of anything else
leaves it alone; so after any run the table holds what the postings come to.  `Ledger`
says this once for counters, to which amounts are posted, and for histograms, to which
observations are.
-/
import Telemetry.Proofs.Wiring
import Telemetry.Session.Step

namespace Telemetry

/-! ### Uses and their answers -/

namespace Store

/-- One use of the store. -/
inductive Use
  /-- An effect to be made good on. -/
  | record (effect : Effect)
  /-- A counter to be read. -/
  | read (family : CounterFamily) (values : List String)
deriving DecidableEq

/-- What a use is answered with. -/
inductive Answer
  | done
  | number (value : UInt64)
  | mismatch (mismatch : LabelMismatch)
deriving DecidableEq

/-- Uses the store once.  What is refused leaves the store as it was. -/
def use (store : Store) : Use → Answer × Store
  | .record effect =>
    match store.apply effect with
    | .error mismatch => (.mismatch mismatch, store)
    | .ok after => (.done, after)
  | .read family values =>
    match store.read family values with
    | .error mismatch => (.mismatch mismatch, store)
    | .ok (value, after) => (.number value, after)

/-- The store after some uses. -/
def after (store : Store) (uses : List Use) : Store :=
  uses.foldl (fun store use => (store.use use).2) store

/-- The answers to some uses, in order. -/
def answers (store : Store) : List Use → List Answer
  | [] => []
  | use :: rest => (store.use use).1 :: (store.use use).2.answers rest

theorem after_cons (store : Store) (use : Use) (rest : List Use) :
    store.after (use :: rest) = (store.use use).2.after rest := rfl

theorem after_snoc (store : Store) (front : List Use) (use : Use) :
    store.after (front ++ [use]) = ((store.after front).use use).2 := by
  simp [after]

/-! ### What a use of a family does -/

section Use

variable (store : Store)

theorem use_count {family : CounterFamily} {values : List String} :
    store.use (.record (.count (.family family) values))
      = if family.names.length = values.length then
          (.done, { store with
            counters := store.counters.alter (family.key values) fun value => value.getD 0 + 1 })
        else (.mismatch ⟨family.names.length, values.length⟩, store) := by
  by_cases hfits : family.names.length = values.length
  · simp only [use, apply, count, Labels.of, hfits, if_true]
    rfl
  · simp only [use, apply, count, Labels.of, hfits, if_false]
    rfl

theorem use_read {family : CounterFamily} {values : List String} :
    store.use (.read family values)
      = if family.names.length = values.length then
          (.number (store.counted (family.key values)), { store with
            counters := store.counters.alter (family.key values) fun value => value.getD 0 + 0 })
        else (.mismatch ⟨family.names.length, values.length⟩, store) := by
  by_cases hfits : family.names.length = values.length
  · have hvalue : ((store.counters.alter (family.key values) fun value => value.getD 0 + 0).get?
        (family.key values)).getD 0 = store.counted (family.key values) := by
      rw [Table.get?_alter, if_pos rfl, UInt64.add_zero]
      rfl
    rw [if_pos hfits, ← hvalue]
    simp only [use, read, count, Labels.of, hfits, if_true]
    rfl
  · simp only [use, read, Labels.of, hfits, if_false]
    rfl

theorem use_observe {family : HistogramFamily} {reading : Reading} {values : List String} :
    store.use (.record (.observe (.family family) reading values))
      = if family.names.length = values.length then
          (.done, { store with
            histograms := store.histograms.alter (family.key values) fun histogram =>
              (histogram.getD (.new family.bounds)).observe reading.seconds })
        else (.mismatch ⟨family.names.length, values.length⟩, store) := by
  by_cases hfits : family.names.length = values.length
  · simp only [use, apply, observe, Labels.of, hfits, if_true]
    rfl
  · simp only [use, apply, observe, Labels.of, hfits, if_false]
    rfl

end Use

end Store

/-! ### A session uses its store in no other way -/

namespace Session

/-- How a step uses the store. -/
def uses (session : Session) (step : Step) : List Store.Use :=
  match step with
  | .read name values =>
    match (session.sinks.table.get? name).bind Sink.storedCounters? with
    | none => []
    | some family => [.read family values]
  | step => (session.step step).effects.map .record

theorem after_record {store after : Store} {effects : List Effect}
    (hok : store.applyAll effects = .ok after) : store.after (effects.map .record) = after := by
  induction effects generalizing store with
  | nil =>
      cases hok
      rfl
  | cons effect rest ih =>
      by_cases hfits : effect.Fits
      · obtain ⟨between, hone, -⟩ := Store.apply_ok store hfits
        rw [Store.applyAll_cons_ok hone] at hok
        have huse : (store.use (.record effect)).2 = between := by
          simp only [Store.use, hone]
        rw [List.map_cons, Store.after_cons, huse]
        exact ih hok
      · have hsome : ¬ ∀ other ∈ effect :: rest, other.Fits :=
          fun h => hfits (h effect (List.mem_cons_self))
        obtain ⟨mismatch, hrefused⟩ := Store.applyAll_refused hsome store
        rw [hrefused] at hok
        cases hok

theorem store_commit {session next : Session} (hnext : next.store = session.store) (reply : Reply)
    (effects : List Effect) :
    (session.commit next reply effects).session.store
      = session.store.after ((session.commit next reply effects).effects.map .record) := by
  rw [commit, hnext]
  cases hok : session.store.applyAll effects with
  | error mismatch => rfl
  | ok after => exact (after_record hok).symm

theorem store_stepTraffic (session : Session) (step : Traffic.Step) :
    (session.stepTraffic step).session.store
      = session.store.after ((session.stepTraffic step).effects.map .record) := by
  refine store_commit ?_ _ _
  rfl

theorem store_useSink {α : Type} (session : Session) (use : Sink → Option α) (name : String)
    (effect : α → Effect) :
    (session.useSink use name effect).session.store
      = session.store.after ((session.useSink use name effect).effects.map .record) := by
  unfold useSink
  cases (session.sinks.table.get? name).bind use with
  | none => rfl
  | some sink => exact store_commit rfl _ _

/-- Whatever a step does to the store is what its uses come to. -/
theorem store_step (session : Session) (step : Step) :
    (session.step step).session.store = session.store.after (session.uses step) := by
  cases step with
  | traffic step => exact session.store_stepTraffic step
  | call id service draft moments =>
      simp only [uses, Session.step]
      cases draft.request with
      | error error => rfl
      | ok request => exact session.store_stepTraffic _
  | respond id draft =>
      simp only [uses, Session.step]
      cases draft.response with
      | error error => rfl
      | ok response => exact session.store_stepTraffic _
  | count name values => exact store_useSink ..
  | observe name value values => exact store_useSink ..
  | read name values =>
      simp only [uses, Session.step]
      cases (session.sinks.table.get? name).bind Sink.storedCounters? with
      | none => rfl
      | some family =>
          rw [Store.after_cons, Store.use]
          dsimp only
          cases session.store.read family values <;> rfl
  | names name =>
      simp only [uses, Session.step]
      cases (session.sinks.table.get? name).bind Sink.names? <;> rfl
  | raise name => exact store_useSink ..
  | lower name => exact store_useSink ..
  | expose => rfl

end Session

/-! ### What postings come to -/

/-- If no key has two entries, an entry is what is found under its key. -/
theorem Table.mem_iff_find {κ α : Type} [DecidableEq κ] {entries : List (κ × α)}
    (hnodup : (entries.map Prod.fst).Nodup) (key : κ) (value : α) :
    (key, value) ∈ entries ↔ Table.find key entries = some value := by
  induction entries with
  | nil => simp [find]
  | cons entry rest ih =>
      obtain ⟨here, kept⟩ := entry
      obtain ⟨hnew, hrest⟩ := List.nodup_cons.mp hnodup
      rw [find, List.mem_cons, ih hrest]
      by_cases hkey : here = key
      · subst hkey
        have hnone : Table.find here rest ≠ some value := by
          intro h
          exact hnew (List.mem_map.mpr ⟨_, (ih hrest).mpr h, rfl⟩)
        simp [hnone, eq_comm]
      · simp [hkey, Ne.symm hkey]

/-- How a family keeps a series: what it starts from, and what it makes of a posting. -/
structure Ledger (α β : Type) where
  fresh : α
  post : α → β → α

namespace Ledger

variable {α β : Type} (ledger : Ledger α β)

/-- The series with one more posting. -/
def enter (series : List (Labels × α)) (posting : Labels × β) : List (Labels × α) :=
  Table.put posting.1 (fun kept => ledger.post (kept.getD ledger.fresh) posting.2) series

/-- The series that come of some postings. -/
def kept (postings : List (Labels × β)) : List (Labels × α) := postings.foldl ledger.enter []

/-- What was posted under some labels, in order. -/
def under (labels : Labels) (postings : List (Labels × β)) : List β :=
  postings.filterMap fun posting => if posting.1 = labels then some posting.2 else none

theorem under_append (labels : Labels) (front back : List (Labels × β)) :
    under labels (front ++ back) = under labels front ++ under labels back :=
  List.filterMap_append

theorem under_eq_nil {labels : Labels} {postings : List (Labels × β)}
    (h : labels ∉ postings.map Prod.fst) : under labels postings = [] := by
  rw [under, List.filterMap_eq_nil_iff]
  intro posting hmem
  exact if_neg fun heq => h (List.mem_map.mpr ⟨posting, hmem, heq⟩)

theorem under_ne_nil {labels : Labels} {postings : List (Labels × β)} :
    under labels postings ≠ [] ↔ labels ∈ postings.map Prod.fst := by
  refine ⟨fun h => not_not.mp (mt under_eq_nil h), fun hmem hnil => ?_⟩
  obtain ⟨posting, hposting, rfl⟩ := List.mem_map.mp hmem
  have hnone := List.filterMap_eq_nil_iff.mp hnil posting hposting
  simp at hnone

theorem kept_snoc (postings : List (Labels × β)) (posting : Labels × β) :
    ledger.kept (postings ++ [posting]) = ledger.enter (ledger.kept postings) posting := by
  simp [kept]

/-- No labels have two series. -/
theorem nodup_kept (postings : List (Labels × β)) :
    ((ledger.kept postings).map Prod.fst).Nodup := by
  induction postings using List.reverseRecOn with
  | nil => exact List.nodup_nil
  | append_singleton init last ih =>
      rw [kept_snoc, enter, Table.map_fst_put]
      split
      case isTrue => exact ih
      case isFalse hnew =>
        refine List.nodup_append.mpr ⟨ih, List.nodup_singleton _, ?_⟩
        rintro one hone other hother rfl
        exact hnew (List.mem_singleton.mp hother ▸ hone)

/-- Labels have a series once something was posted under them. -/
theorem find_kept (postings : List (Labels × β)) (labels : Labels) :
    Table.find labels (ledger.kept postings)
      = if labels ∈ postings.map Prod.fst
        then some ((under labels postings).foldl ledger.post ledger.fresh) else none := by
  induction postings using List.reverseRecOn with
  | nil => rfl
  | append_singleton init last ih =>
      obtain ⟨there, posted⟩ := last
      rw [kept_snoc, enter, Table.find_put]
      by_cases hthere : there = labels
      · subst hthere
        have hlast : under there [(there, posted)] = [posted] := by simp [under]
        rw [if_pos rfl, if_pos (by simp), under_append, hlast, List.foldl_append, ih]
        split
        case isTrue => rfl
        case isFalse hnone =>
          rw [under_eq_nil hnone]
          rfl
      · have hlast : under labels [(there, posted)] = [] := by simp [under, hthere]
        have hmem : labels ∈ (init ++ [(there, posted)]).map Prod.fst
            ↔ labels ∈ init.map Prod.fst := by
          rw [List.map_append, List.mem_append, List.map_singleton, List.mem_singleton]
          exact or_iff_left fun h => hthere h.symm
        rw [if_neg hthere, under_append, hlast, List.append_nil, ih]
        exact if_congr hmem.symm rfl rfl

/-- The series are those under whose labels something was posted, each with what the
postings there come to. -/
theorem mem_kept (postings : List (Labels × β)) (labels : Labels) (series : α) :
    (labels, series) ∈ ledger.kept postings ↔ labels ∈ postings.map Prod.fst ∧
      series = (under labels postings).foldl ledger.post ledger.fresh := by
  rw [Table.mem_iff_find (ledger.nodup_kept postings), find_kept]
  split
  case isTrue h => simp [h, eq_comm]
  case isFalse h => simp [h]

/-- Whether a use enters its posting, if it makes one, in what is shown of the store, and
changes nothing there otherwise. -/
def Enters (shown : Store → List (Labels × α)) (posting? : Store.Use → Option (Labels × β))
    (use : Store.Use) : Prop :=
  ∀ store, shown (store.use use).2 = match posting? use with
    | none => shown store
    | some posting => ledger.enter (shown store) posting

variable {ledger}

/-- What is shown after some uses is what their postings come to. -/
theorem shown_after {shown : Store → List (Labels × α)}
    {posting? : Store.Use → Option (Labels × β)} {store : Store} (hnone : shown store = [])
    {uses : List Store.Use} (henters : ∀ use ∈ uses, ledger.Enters shown posting? use) :
    shown (store.after uses) = ledger.kept (uses.filterMap posting?) := by
  induction uses using List.reverseRecOn with
  | nil => exact hnone
  | append_singleton init last ih =>
      rw [Store.after_snoc, henters last (by simp), ih fun use h => henters use (by simp [h]),
        List.filterMap_append]
      cases hlast : posting? last with
      | none => simp [hlast]
      | some posting => simp [hlast, kept_snoc]

end Ledger

/-! ### What is shown of a family -/

namespace Exposition

/-- A change to the table changes the series of one family only. -/
theorem seriesOf_alter {α : Type} (family : MetricId) (table : Table SeriesKey α) (key : SeriesKey)
    (change : Option α → α) :
    seriesOf family (table.alter key change)
      = if key.family = family then Table.put key.labels change (seriesOf family table)
        else seriesOf family table := by
  obtain ⟨entries⟩ := table
  simp only [seriesOf, Table.alter]
  induction entries with
  | nil => by_cases hfamily : key.family = family <;> simp [Table.put, hfamily]
  | cons entry rest ih =>
      obtain ⟨there, kept⟩ := entry
      by_cases hthere : there = key
      · subst hthere
        by_cases hfamily : there.family = family <;> simp [Table.put, hfamily]
      · by_cases hfamily : key.family = family
        · rw [if_pos hfamily] at ih ⊢
          by_cases hown : there.family = family
          · have hlabels : there.labels ≠ key.labels := by
              intro h
              apply hthere
              cases there
              cases key
              simp_all
            simp [Table.put, hthere, hown, hlabels, ih]
          · simp [Table.put, hthere, hown, ih]
        · rw [if_neg hfamily] at ih ⊢
          simp [Table.put, hthere, List.filterMap_cons, ih]

theorem find_seriesOf {α : Type} (family : MetricId) (table : Table SeriesKey α) (labels : Labels) :
    Table.find labels (seriesOf family table) = table.get? ⟨family, labels⟩ := by
  obtain ⟨entries⟩ := table
  simp only [seriesOf, Table.get?]
  induction entries with
  | nil => rfl
  | cons entry rest ih =>
      obtain ⟨⟨there, under⟩, kept⟩ := entry
      by_cases hown : there = family
      · by_cases hlabels : under = labels <;> simp [Table.find, hown, hlabels, ih]
      · simp [Table.find, hown, ih]

theorem seriesOf_untouched {α : Type} {family : MetricId} {table : Table SeriesKey α}
    (huntouched : ∀ key ∈ table.keys, key.family ≠ family) : seriesOf family table = [] := by
  rw [seriesOf, List.filterMap_eq_nil_iff]
  intro entry hmem
  exact if_neg (huntouched entry.1 (List.mem_map.mpr ⟨entry, hmem, rfl⟩))

end Exposition

end Telemetry
