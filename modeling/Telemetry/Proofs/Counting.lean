/-
A family of counters counts by label values.

What is read under some label values is how often exactly these values were counted, as a
word, and no other list of values shares it.  A series exists under the values that were
counted or read, and under no others.  Reading makes a series at most, at zero, so no
later answer tells whether something was read.

Copies of a family lead to one table of counters.  The family here is any one of them,
and the uses are any uses of the store in any order, whatever other metrics they concern,
as long as what goes to the family's counters is handed to a copy of the family.
-/
import Telemetry.Proofs.Usage

namespace Telemetry

/-! ### Reading is not noticed -/

/-- Two stores that no reading of a counter tells apart. -/
def Store.SameCounts (store other : Store) : Prop :=
  ∀ key, store.counted key = other.counted key

namespace Store.SameCounts

variable {store other : Store}

theorem alter {after otherAfter : Store} (hsame : store.SameCounts other) {key : SeriesKey}
    {amount : UInt64}
    (hafter : after.counters = store.counters.alter key fun value => value.getD 0 + amount)
    (hother : otherAfter.counters = other.counters.alter key fun value => value.getD 0 + amount) :
    after.SameCounts otherAfter := by
  intro there
  rw [Store.counted, Store.counted, hafter, hother, Table.get?_alter, Table.get?_alter]
  by_cases hkey : key = there
  · have hboth : (store.counters.get? key).getD 0 = (other.counters.get? key).getD 0 := hsame key
    rw [if_pos hkey, if_pos hkey, hboth]
  · rw [if_neg hkey, if_neg hkey]
    exact hsame there

/-- A use is answered alike, and leaves stores that are still not told apart. -/
theorem use (hsame : store.SameCounts other) (use : Store.Use) :
    (store.use use).1 = (other.use use).1 ∧ (store.use use).2.SameCounts (other.use use).2 := by
  cases use with
  | read family values =>
      rw [use_read, use_read, hsame]
      split
      case isTrue => exact ⟨rfl, hsame.alter rfl rfl⟩
      case isFalse => exact ⟨rfl, hsame⟩
  | record effect =>
      cases effect with
      | count sink values =>
          cases sink with
          | family family =>
              rw [use_count, use_count]
              split
              case isTrue => exact ⟨rfl, hsame.alter rfl rfl⟩
              case isFalse => exact ⟨rfl, hsame⟩
          | probe name labels => exact ⟨rfl, hsame⟩
      | observe sink reading values =>
          cases sink with
          | family family =>
              rw [use_observe, use_observe]
              split <;> exact ⟨rfl, hsame⟩
          | probe name labels => exact ⟨rfl, hsame⟩
      | raise sink | lower sink => cases sink <;> exact ⟨rfl, hsame⟩
      | note | hear | log => exact ⟨rfl, hsame⟩

theorem answers (hsame : store.SameCounts other) (uses : List Store.Use) :
    store.answers uses = other.answers uses := by
  induction uses generalizing store other with
  | nil => rfl
  | cons use rest ih =>
      obtain ⟨hanswer, hafter⟩ := hsame.use use
      rw [Store.answers, Store.answers, hanswer, ih hafter]

theorem read (store : Store) (family : CounterFamily) (values : List String) :
    (store.use (.read family values)).2.SameCounts store := by
  rw [use_read]
  split
  case isTrue =>
    intro key
    rw [counted, counted, Table.get?_alter]
    by_cases hkey : family.key values = key
    · rw [if_pos hkey, hkey, UInt64.add_zero]
      rfl
    · rw [if_neg hkey]
      rfl
  case isFalse => exact fun _ => rfl

end Store.SameCounts

namespace CounterFamily

/-! ### What is posted to a family -/

/-- How counters are kept: each starts at zero, and what is posted is added. -/
def ledger : Ledger UInt64 UInt64 := ⟨0, (· + ·)⟩

/-- What a use posts to the family: counting posts one, reading posts zero. -/
def posting? (family : CounterFamily) : Store.Use → Option (Labels × UInt64)
  | .record (.count (.family other) values) =>
    if other.id = family.id ∧ other.names.length = values.length then
      some (other.names.zip values, 1) else none
  | .read other values =>
    if other.id = family.id ∧ other.names.length = values.length then
      some (other.names.zip values, 0) else none
  | _ => none

/-- Whether a use that goes to the family's counters is handed to a copy of the family. -/
def ByCopy (family : CounterFamily) : Store.Use → Prop
  | .record (.count (.family other) _) | .read other _ => other.id = family.id → other = family
  | _ => True

variable (family : CounterFamily)

/-- What the store shows of a family is kept by the ledger. -/
theorem enters (use : Store.Use) :
    ledger.Enters (fun store => Exposition.seriesOf family.id store.counters) family.posting?
      use := by
  intro store
  cases use with
  | read other values =>
      rw [Store.use_read, posting?]
      by_cases hfits : other.names.length = values.length
      · by_cases hown : other.id = family.id <;>
          simp [hfits, hown, Exposition.seriesOf_alter, key, ledger, Ledger.enter]
      · simp [hfits]
  | record effect =>
      cases effect with
      | count sink values =>
          cases sink with
          | family other =>
              rw [Store.use_count, posting?]
              by_cases hfits : other.names.length = values.length
              · by_cases hown : other.id = family.id <;>
                  simp [hfits, hown, Exposition.seriesOf_alter, key, ledger, Ledger.enter]
              · simp [hfits]
          | probe name labels => rfl
      | observe sink reading values =>
          cases sink with
          | family other =>
              rw [Store.use_observe]
              split <;> rfl
          | probe name labels => rfl
      | raise sink | lower sink => cases sink <;> rfl
      | note | hear | log => rfl

variable {family} {uses : List Store.Use}

theorem posting?_count {values : List String} (hvalues : values.length = family.names.length) :
    family.posting? (.record (.count (.family family) values))
      = some (family.names.zip values, 1) :=
  if_pos ⟨rfl, hvalues.symm⟩

theorem posting?_read {values : List String} (hvalues : values.length = family.names.length) :
    family.posting? (.read family values) = some (family.names.zip values, 0) :=
  if_pos ⟨rfl, hvalues.symm⟩

/-- What posts to the family is a counting or a reading, handed to a copy of it. -/
theorem posting?_cases {use : Store.Use} (hcopy : family.ByCopy use) {posting : Labels × UInt64}
    (hposting : family.posting? use = some posting) :
    ∃ values, values.length = family.names.length ∧
      ((use = .record (.count (.family family) values) ∧ posting = (family.names.zip values, 1)) ∨
        (use = .read family values ∧ posting = (family.names.zip values, 0))) := by
  unfold posting? at hposting
  split at hposting
  case h_1 other values =>
    split at hposting
    case isTrue h =>
      obtain rfl : other = family := hcopy h.1
      exact ⟨values, h.2.symm, .inl ⟨rfl, (Option.some.inj hposting).symm⟩⟩
    case isFalse => cases hposting
  case h_2 other values =>
    split at hposting
    case isTrue h =>
      obtain rfl : other = family := hcopy h.1
      exact ⟨values, h.2.symm, .inr ⟨rfl, (Option.some.inj hposting).symm⟩⟩
    case isFalse => cases hposting
  case h_3 => cases hposting

/-- Something is posted under some values if they are counted or read. -/
theorem mem_postings (hcopies : ∀ use ∈ uses, family.ByCopy use) (labels : Labels) :
    labels ∈ (uses.filterMap family.posting?).map Prod.fst ↔
      ∃ values, values.length = family.names.length ∧ labels = family.names.zip values ∧
        (.record (.count (.family family) values) ∈ uses ∨ .read family values ∈ uses) := by
  constructor
  · intro hmem
    obtain ⟨posting, hposting, rfl⟩ := List.mem_map.mp hmem
    obtain ⟨use, huse, hpost⟩ := List.mem_filterMap.mp hposting
    obtain ⟨values, hvalues, ⟨rfl, rfl⟩ | ⟨rfl, rfl⟩⟩ := posting?_cases (hcopies use huse) hpost
    · exact ⟨values, hvalues, rfl, .inl huse⟩
    · exact ⟨values, hvalues, rfl, .inr huse⟩
  · rintro ⟨values, hvalues, rfl, hcount | hread⟩
    · exact List.mem_map.mpr
        ⟨_, List.mem_filterMap.mpr ⟨_, hcount, posting?_count hvalues⟩, rfl⟩
    · exact List.mem_map.mpr
        ⟨_, List.mem_filterMap.mpr ⟨_, hread, posting?_read hvalues⟩, rfl⟩

/-- What is posted under some values adds up to how often they are counted. -/
theorem foldl_postings (hcopies : ∀ use ∈ uses, family.ByCopy use) {values : List String}
    (hvalues : values.length = family.names.length) (start : UInt64) :
    (Ledger.under (family.names.zip values) (uses.filterMap family.posting?)).foldl ledger.post
        start = start + UInt64.ofNat (uses.count (.record (.count (.family family) values))) := by
  induction uses generalizing start with
  | nil => simp [Ledger.under]
  | cons use rest ih =>
      have hrest := ih fun other hother => hcopies other (List.mem_cons_of_mem use hother)
      cases hposting : family.posting? use with
      | none =>
          have hother : use ≠ .record (.count (.family family) values) := by
            rintro rfl
            rw [posting?_count hvalues] at hposting
            cases hposting
          rw [List.filterMap_cons_none hposting, List.count_cons_of_ne hother]
          exact hrest start
      | some posting =>
          rw [List.filterMap_cons_some hposting, ← List.singleton_append, Ledger.under_append,
            List.foldl_append, hrest]
          obtain ⟨given, hgiven, ⟨rfl, rfl⟩ | ⟨rfl, rfl⟩⟩ :=
            posting?_cases (hcopies use (List.mem_cons_self)) hposting
          · by_cases hsame : given = values
            · subst hsame
              rw [List.count_cons_self, Nat.add_comm, UInt64.ofNat_add, ← UInt64.add_assoc]
              simp [Ledger.under, ledger]
            · have hlabels : family.names.zip given ≠ family.names.zip values := by
                intro h
                exact hsame (zip_injective hgiven.symm hvalues.symm h)
              rw [List.count_cons_of_ne (by simp [hsame])]
              simp [Ledger.under, hlabels]
          · rw [List.count_cons_of_ne (by simp)]
            by_cases hlabels : family.names.zip given = family.names.zip values <;>
              simp [Ledger.under, ledger, hlabels]

/-! ### What is shown of a family -/

section Shown

variable {here : Store} (huntouched : ∀ key ∈ here.counters.keys, key.family ≠ family.id)
  (hcopies : ∀ use ∈ uses, family.ByCopy use)

include huntouched

theorem series_after : Exposition.seriesOf family.id (here.after uses).counters
    = ledger.kept (uses.filterMap family.posting?) :=
  Ledger.shown_after (Exposition.seriesOf_untouched huntouched) fun use _ => family.enters use

include hcopies

/-- The series are those under the values that were counted or read, with the number of
times that they were counted. -/
theorem mem_series (labels : Labels) (value : UInt64) :
    (labels, value) ∈ Exposition.seriesOf family.id (here.after uses).counters ↔
      ∃ values, values.length = family.names.length ∧ labels = family.names.zip values ∧
        (.record (.count (.family family) values) ∈ uses ∨ .read family values ∈ uses) ∧
        value = UInt64.ofNat (uses.count (.record (.count (.family family) values))) := by
  rw [series_after huntouched, Ledger.mem_kept, mem_postings hcopies]
  constructor
  · rintro ⟨⟨values, hvalues, rfl, htouched⟩, rfl⟩
    refine ⟨values, hvalues, rfl, htouched, ?_⟩
    rw [foldl_postings hcopies hvalues]
    exact UInt64.zero_add _
  · rintro ⟨values, hvalues, rfl, htouched, rfl⟩
    refine ⟨⟨values, hvalues, rfl, htouched⟩, ?_⟩
    rw [foldl_postings hcopies hvalues]
    exact (UInt64.zero_add _).symm

/-- What is read is the number of times that the values were counted. -/
theorem read_after {values : List String} (hvalues : values.length = family.names.length) :
    ((here.after uses).use (.read family values)).1
      = .number (UInt64.ofNat (uses.count (.record (.count (.family family) values)))) := by
  have hcounted : (here.after uses).counted (family.key values)
      = UInt64.ofNat (uses.count (.record (.count (.family family) values))) := by
    have hfold := foldl_postings hcopies hvalues 0
    rw [UInt64.zero_add] at hfold
    rw [Store.counted, key, ← Exposition.find_seriesOf, series_after huntouched, Ledger.find_kept,
      ← hfold]
    split
    case isTrue => rfl
    case isFalse hnone => rw [Ledger.under_eq_nil hnone]; rfl
  rw [Store.use_read, if_pos hvalues.symm, hcounted]

end Shown

/--
**A family of counters counts by label values.**

Take any uses of the store since the family was made.  What is read under as many values
as the family has names is how often exactly these values were counted.  The series are
those under the values that were counted or read, each of them once.  Reading changes no
later answer.  Where the values do not match the names in number, the answer says so and
the store stays as it was.
-/
theorem counts_by_values (family : CounterFamily) (here : Store) (uses : List Store.Use)
    (huntouched : ∀ key ∈ here.counters.keys, key.family ≠ family.id)
    (hcopies : ∀ use ∈ uses, family.ByCopy use) :
    let there := here.after uses
    let counted (values : List String) :=
      UInt64.ofNat (uses.count (.record (.count (.family family) values)))
    let series := Exposition.seriesOf family.id there.counters
    (∀ values, values.length = family.names.length →
      (there.use (.read family values)).1 = .number (counted values)) ∧
    (∀ other given later,
      (there.use (.read other given)).2.answers later = there.answers later) ∧
    (series.map Prod.fst).Nodup ∧
    (∀ labels value, (labels, value) ∈ series ↔
      ∃ values, values.length = family.names.length ∧ labels = family.names.zip values ∧
        (.record (.count (.family family) values) ∈ uses ∨ .read family values ∈ uses) ∧
        value = counted values) ∧
    (∀ values others, values.length = family.names.length →
      others.length = family.names.length → family.key values = family.key others →
      values = others) ∧
    ∀ values, values.length ≠ family.names.length →
      let mismatch : LabelMismatch := ⟨family.names.length, values.length⟩
      there.use (.record (.count (.family family) values)) = (.mismatch mismatch, there) ∧
        there.use (.read family values) = (.mismatch mismatch, there) := by
  intro there counted series
  refine ⟨fun values hvalues => read_after huntouched hcopies hvalues, ?_, ?_,
    mem_series huntouched hcopies, ?_, ?_⟩
  · intro other given later
    exact (Store.SameCounts.read there other given).answers later
  · show ((Exposition.seriesOf family.id (here.after uses).counters).map Prod.fst).Nodup
    rw [series_after huntouched]
    exact ledger.nodup_kept _
  · intro values others hvalues hothers
    exact (key_inj hvalues.symm hothers.symm).mp
  · intro values hvalues
    exact ⟨by rw [Store.use_count, if_neg (Ne.symm hvalues)],
      by rw [Store.use_read, if_neg (Ne.symm hvalues)]⟩

/-- Two values that trade places are counted apart, whatever happens in between. -/
theorem counts_by_values_swapped :
    let family : CounterFamily := ⟨7, ["code", "method"]⟩
    let durations : HistogramFamily := ⟨8, ["code"], [0.5]⟩
    let uses : List Store.Use := [.record (.count (.family family) ["200", "get"]),
      .read family ["get", "200"], .record (.observe (.family durations) (.number 0.1) ["200"]),
      .record (.count (.family family) ["200", "get"]), .read family ["200"]]
    (∀ key ∈ Store.empty.counters.keys, key.family ≠ family.id) ∧
    (∀ use ∈ uses, family.ByCopy use) ∧
    ((Store.empty.after uses).use (.read family ["200", "get"])).1 = .number 2 ∧
    ((Store.empty.after uses).use (.read family ["get", "200"])).1 = .number 0 := by
  intro family durations uses
  have huntouched : ∀ key ∈ Store.empty.counters.keys, key.family ≠ family.id :=
    fun _ h => absurd h (List.not_mem_nil)
  have hcopies : ∀ use ∈ uses, family.ByCopy use := by
    intro use huse
    simp only [uses, List.mem_cons, List.not_mem_nil, or_false] at huse
    rcases huse with rfl | rfl | rfl | rfl | rfl
    · exact fun _ => rfl
    · exact fun _ => rfl
    · exact trivial
    · exact fun _ => rfl
    · exact fun _ => rfl
  obtain ⟨hread, -⟩ := counts_by_values family .empty uses huntouched hcopies
  exact ⟨huntouched, hcopies, hread ["200", "get"] rfl, hread ["get", "200"] rfl⟩

end CounterFamily

end Telemetry
