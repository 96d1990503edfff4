/-
A family of histograms keeps the observations of each series in the family's buckets.

The series under some label values is made on the first observation there, with the
family's bounds in the order in which they were given, and its count is the number of
observations.  When does a bucket's cumulative count say how many observations are at most
its bound?  An observation goes into the first bucket that has room for it, so it is counted
up to every bucket from there on; these are the buckets whose bounds the value does not
exceed if the bounds stand in order.  That is one step, `cumulativeFrom_fill`; the law for
all observations follows by taking them one after the other.

Only the order of doubles comes in, and that the largest of them, which bounds the last
bucket, is no less than any finite one.
-/
import Telemetry.Proofs.FloatOrder
import Telemetry.Proofs.Usage

namespace Telemetry

namespace Bucket

/-! ### One observation -/

theorem map_bound_fill (value : Float) (buckets : List Bucket) :
    (fill value buckets).map bound = buckets.map bound := by
  induction buckets with
  | nil => rfl
  | cons bucket rest ih =>
      rw [fill]
      split
      case isTrue => rfl
      case isFalse => rw [List.map_cons, List.map_cons, ih]

theorem map_fst_cumulativeFrom (below : Nat) (buckets : List Bucket) :
    (cumulativeFrom below buckets).map Prod.fst = buckets.map bound := by
  induction buckets generalizing below with
  | nil => rfl
  | cons bucket rest ih => rw [cumulativeFrom, List.map_cons, List.map_cons, ih]

/-- What is below the first bucket is counted up to every bucket. -/
theorem cumulativeFrom_succ (below : Nat) (buckets : List Bucket) :
    cumulativeFrom (below + 1) buckets
      = (cumulativeFrom below buckets).map fun entry => (entry.1, entry.2 + 1) := by
  induction buckets generalizing below with
  | nil => rfl
  | cons bucket rest ih =>
      rw [cumulativeFrom, cumulativeFrom, List.map_cons, Nat.add_right_comm, ih]

theorem le_cumulativeFrom (below : Nat) (buckets : List Bucket) :
    ∀ entry ∈ cumulativeFrom below buckets, below ≤ entry.2 := by
  induction buckets generalizing below with
  | nil => exact fun _ h => absurd h (List.not_mem_nil)
  | cons bucket rest ih =>
      intro entry hmem
      rcases List.mem_cons.mp hmem with rfl | hrest
      · exact Nat.le_add_right below bucket.count
      · exact Nat.le_trans (Nat.le_add_right below bucket.count) (ih _ entry hrest)

/-- Cumulative counts never fall. -/
theorem pairwise_cumulativeFrom (below : Nat) (buckets : List Bucket) :
    (cumulativeFrom below buckets).Pairwise fun entry later => entry.2 ≤ later.2 := by
  induction buckets generalizing below with
  | nil => exact .nil
  | cons bucket rest ih => exact .cons (le_cumulativeFrom _ rest) (ih _)

/-- Where bounds stand in order, an observation is counted up to the buckets whose bounds it
does not exceed, and no others. -/
theorem cumulativeFrom_fill {buckets : List Bucket}
    (hsorted : (buckets.map bound).Pairwise (· ≤ ·)) (value : Float) (below : Nat) :
    cumulativeFrom below (fill value buckets)
      = (cumulativeFrom below buckets).map fun entry =>
          (entry.1, if value ≤ entry.1 then entry.2 + 1 else entry.2) := by
  induction buckets generalizing below with
  | nil => rfl
  | cons bucket rest ih =>
      obtain ⟨hfirst, hrest⟩ := List.pairwise_cons.mp hsorted
      rw [fill]
      split
      case isTrue hroom =>
        rw [cumulativeFrom, cumulativeFrom, List.map_cons, if_pos hroom, ← Nat.add_assoc,
          cumulativeFrom_succ]
        refine congrArg (_ :: ·) (List.map_congr_left fun entry hmem => ?_)
        -- Every bound further on has room for the value as well.
        have hbound : entry.1 ∈ rest.map bound := by
          rw [← map_fst_cumulativeFrom (below + bucket.count) rest]
          exact List.mem_map.mpr ⟨entry, hmem, rfl⟩
        have hle : value ≤ entry.1 := FloatOrder.le_trans hroom (hfirst _ hbound)
        rw [if_pos hle]
      case isFalse hroom =>
        rw [cumulativeFrom, cumulativeFrom, List.map_cons, if_neg hroom, ih hrest]

end Bucket

namespace Histogram

/-! ### All observations of a series -/

/-- The histogram of some observations, in order. -/
def ofObserved (bounds observed : List Float) : Histogram := observed.foldl observe (.new bounds)

theorem ofObserved_snoc (bounds front : List Float) (value : Float) :
    ofObserved bounds (front ++ [value]) = (ofObserved bounds front).observe value := by
  simp [ofObserved]

theorem count_ofObserved (bounds observed : List Float) :
    (ofObserved bounds observed).count = observed.length := by
  induction observed using List.reverseRecOn with
  | nil => rfl
  | append_singleton front value ih =>
      rw [ofObserved_snoc, List.length_append, ← ih]
      rfl

theorem bounds_ofObserved (bounds observed : List Float) :
    (ofObserved bounds observed).buckets.map Bucket.bound = bounds ++ [Bucket.lastBound] := by
  induction observed using List.reverseRecOn with
  | nil => simp [ofObserved, Histogram.new, Function.comp_def]
  | append_singleton front value ih =>
      rw [ofObserved_snoc, ← ih]
      exact Bucket.map_bound_fill value _

theorem pairwise_cumulative (histogram : Histogram) :
    histogram.cumulative.Pairwise fun entry later => entry.2 ≤ later.2 :=
  Bucket.pairwise_cumulativeFrom 0 _

theorem cumulative_new (bounds : List Float) :
    (Histogram.new bounds).cumulative
      = (bounds ++ [Bucket.lastBound]).map fun bound => (bound, 0) := by
  rw [cumulative, Histogram.new]
  induction bounds ++ [Bucket.lastBound] with
  | nil => rfl
  | cons bound rest ih => exact congrArg ((bound, 0) :: ·) ih

/-- Where bounds stand in order, what is counted up to a bound are the observations that are
at most the bound. -/
theorem cumulative_ofObserved {bounds : List Float}
    (hsorted : (bounds ++ [Bucket.lastBound]).Pairwise (· ≤ ·)) (observed : List Float) :
    (ofObserved bounds observed).cumulative
      = (bounds ++ [Bucket.lastBound]).map fun bound =>
          (bound, observed.countP fun value => value ≤ bound) := by
  induction observed using List.reverseRecOn with
  | nil => exact cumulative_new bounds
  | append_singleton front value ih =>
      have hordered : ((ofObserved bounds front).buckets.map Bucket.bound).Pairwise (· ≤ ·) := by
        rw [bounds_ofObserved]
        exact hsorted
      have hstep := Bucket.cumulativeFrom_fill hordered value 0
      rw [ofObserved_snoc]
      refine hstep.trans ?_
      rw [← cumulative, ih, List.map_map]
      refine List.map_congr_left fun bound _ => ?_
      by_cases hroom : value ≤ bound <;> simp [List.countP_append, hroom]

/-- Bounds that rise and are finite stand in order with the last bound behind them. -/
theorem sorted_bounds {bounds : List Float} (hrising : bounds.Pairwise (· < ·))
    (hfinite : ∀ bound ∈ bounds, bound.isFinite = true) :
    (bounds ++ [Bucket.lastBound]).Pairwise (· ≤ ·) := by
  refine List.pairwise_append.mpr
    ⟨hrising.imp FloatOrder.le_of_lt, List.pairwise_singleton _ _, ?_⟩
  intro bound hbound last hlast
  rw [List.mem_singleton.mp hlast]
  exact FloatOrder.le_lastBound (hfinite bound hbound)

theorem countP_lastBound {observed : List Float}
    (hfinite : ∀ value ∈ observed, value.isFinite = true) :
    observed.countP (fun value => value ≤ Bucket.lastBound) = observed.length := by
  rw [List.countP_eq_length]
  exact fun value hmem => decide_eq_true (FloatOrder.le_lastBound (hfinite value hmem))

end Histogram

namespace HistogramFamily

/-! ### What is posted to a family -/

/-- How a family's histograms are kept: each starts with the family's bounds, and what is
posted is observed. -/
def ledger (family : HistogramFamily) : Ledger Histogram Float :=
  ⟨.new family.bounds, Histogram.observe⟩

/-- What a use posts to the family: the value that is observed. -/
def posting? (family : HistogramFamily) : Store.Use → Option (Labels × Float)
  | .record (.observe (.family other) reading values) =>
    if other.id = family.id ∧ other.names.length = values.length then
      some (other.names.zip values, reading.seconds) else none
  | _ => none

/-- Whether a use that goes to the family's histograms is handed to a copy of the family. -/
def ByCopy (family : HistogramFamily) : Store.Use → Prop
  | .record (.observe (.family other) _ _) => other.id = family.id → other = family
  | _ => True

/-- What is observed in the family under some values, in order. -/
def observed (family : HistogramFamily) (values : List String) (uses : List Store.Use) :
    List Float :=
  uses.filterMap fun
    | .record (.observe (.family other) reading given) =>
      if other = family ∧ given = values then some reading.seconds else none
    | _ => none

variable {family : HistogramFamily}

/-- What the store shows of a family is kept by its ledger, as long as copies of the family
are used. -/
theorem enters {use : Store.Use} (hcopy : family.ByCopy use) :
    family.ledger.Enters (fun store => Exposition.seriesOf family.id store.histograms)
      family.posting? use := by
  intro store
  cases use with
  | read other values =>
      rw [Store.use_read]
      split <;> rfl
  | record effect =>
      cases effect with
      | observe sink reading values =>
          cases sink with
          | family other =>
              rw [Store.use_observe, posting?]
              by_cases hfits : other.names.length = values.length
              · by_cases hown : other.id = family.id
                · obtain rfl : other = family := hcopy hown
                  simp [hfits, Exposition.seriesOf_alter, key, ledger, Ledger.enter]
                · simp [hfits, hown, Exposition.seriesOf_alter, key]
              · simp [hfits]
          | probe name labels => rfl
      | count sink values =>
          cases sink with
          | family other =>
              rw [Store.use_count]
              split <;> rfl
          | probe name labels => rfl
      | raise sink | lower sink => cases sink <;> rfl
      | note | hear | log => rfl

variable {uses : List Store.Use}

theorem posting?_observe {values : List String} {reading : Reading}
    (hvalues : values.length = family.names.length) :
    family.posting? (.record (.observe (.family family) reading values))
      = some (family.names.zip values, reading.seconds) :=
  if_pos ⟨rfl, hvalues.symm⟩

/-- What posts to the family is an observation, handed to a copy of it. -/
theorem posting?_cases {use : Store.Use} (hcopy : family.ByCopy use) {posting : Labels × Float}
    (hposting : family.posting? use = some posting) :
    ∃ values reading, values.length = family.names.length ∧
      use = .record (.observe (.family family) reading values) ∧
      posting = (family.names.zip values, reading.seconds) := by
  unfold posting? at hposting
  split at hposting
  case h_1 other reading values =>
    split at hposting
    case isTrue h =>
      obtain rfl : other = family := hcopy h.1
      exact ⟨values, reading, h.2.symm, rfl, (Option.some.inj hposting).symm⟩
    case isFalse => cases hposting
  case h_2 => cases hposting

/-- What is posted under some values is what is observed there. -/
theorem under_postings (hcopies : ∀ use ∈ uses, family.ByCopy use) {values : List String}
    (hvalues : values.length = family.names.length) :
    Ledger.under (family.names.zip values) (uses.filterMap family.posting?)
      = family.observed values uses := by
  rw [Ledger.under, List.filterMap_filterMap, observed]
  refine List.filterMap_congr fun use huse => ?_
  cases hposting : family.posting? use with
  | none =>
      symm
      split
      case h_1 other reading given =>
        -- An observation under these values would have posted.
        refine if_neg ?_
        rintro ⟨rfl, rfl⟩
        rw [posting?_observe hvalues] at hposting
        cases hposting
      case h_2 => rfl
  | some posting =>
      obtain ⟨given, reading, hgiven, rfl, rfl⟩ := posting?_cases (hcopies use huse) hposting
      by_cases hsame : given = values
      · subst hsame
        simp
      · have hlabels : family.names.zip given ≠ family.names.zip values := by
          intro h
          exact hsame (zip_injective hgiven.symm hvalues.symm h)
        simp [hsame, hlabels]

/-! ### What is shown of a family -/

section Shown

variable {here : Store} (huntouched : ∀ key ∈ here.histograms.keys, key.family ≠ family.id)
  (hcopies : ∀ use ∈ uses, family.ByCopy use)

include huntouched hcopies

theorem series_after : Exposition.seriesOf family.id (here.after uses).histograms
    = family.ledger.kept (uses.filterMap family.posting?) :=
  Ledger.shown_after (Exposition.seriesOf_untouched huntouched) fun use huse =>
    enters (hcopies use huse)

/-- The series are those under the values where something was observed. -/
theorem mem_series (labels : Labels) (histogram : Histogram) :
    (labels, histogram) ∈ Exposition.seriesOf family.id (here.after uses).histograms ↔
      ∃ values, values.length = family.names.length ∧ labels = family.names.zip values ∧
        family.observed values uses ≠ [] ∧
        histogram = .ofObserved family.bounds (family.observed values uses) := by
  rw [series_after huntouched hcopies, Ledger.mem_kept]
  constructor
  · rintro ⟨hmem, rfl⟩
    obtain ⟨posting, hposting, rfl⟩ := List.mem_map.mp hmem
    obtain ⟨use, huse, hpost⟩ := List.mem_filterMap.mp hposting
    obtain ⟨values, reading, hvalues, rfl, rfl⟩ := posting?_cases (hcopies use huse) hpost
    rw [← Ledger.under_ne_nil] at hmem
    have hunder := under_postings hcopies hvalues
    exact ⟨values, hvalues, rfl, hunder ▸ hmem, by rw [hunder]; rfl⟩
  · rintro ⟨values, hvalues, rfl, hsome, rfl⟩
    rw [← Ledger.under_ne_nil, under_postings hcopies hvalues]
    exact ⟨hsome, rfl⟩

end Shown

/--
**A family of histograms keeps each series' observations in the family's buckets.**

Take any uses of the store since the family was made.  The series are those under the
values where something was observed, each of them once and with the family's bounds in
their order; the count is the number of observations there.  Cumulative counts never fall.
If the bounds rise and they and the observed values are finite, the cumulative count of a
bucket is the number of observations that are at most its bound, and that of the last
bucket is the count.
-/
theorem keeps_observations (family : HistogramFamily) (here : Store) (uses : List Store.Use)
    (huntouched : ∀ key ∈ here.histograms.keys, key.family ≠ family.id)
    (hcopies : ∀ use ∈ uses, family.ByCopy use) :
    let series := Exposition.seriesOf family.id (here.after uses).histograms
    (series.map Prod.fst).Nodup ∧
    (∀ values, values.length = family.names.length →
      ((∃ histogram, (family.names.zip values, histogram) ∈ series) ↔
        family.observed values uses ≠ [])) ∧
    ∀ labels histogram, (labels, histogram) ∈ series →
      ∃ values, values.length = family.names.length ∧ labels = family.names.zip values ∧
        let observed := family.observed values uses
        histogram.count = observed.length ∧
        histogram.buckets.map Bucket.bound = family.bounds ++ [Bucket.lastBound] ∧
        (histogram.cumulative.Pairwise fun entry later => entry.2 ≤ later.2) ∧
        (family.bounds.Pairwise (· < ·) → (∀ bound ∈ family.bounds, bound.isFinite = true) →
          (∀ value ∈ observed, value.isFinite = true) →
          histogram.cumulative
            = (family.bounds.map fun bound => (bound, observed.countP fun value => value ≤ bound))
              ++ [(Bucket.lastBound, histogram.count)]) := by
  intro series
  refine ⟨?_, ?_, ?_⟩
  · show ((Exposition.seriesOf family.id (here.after uses).histograms).map Prod.fst).Nodup
    rw [series_after huntouched hcopies]
    exact family.ledger.nodup_kept _
  · intro values hvalues
    constructor
    · rintro ⟨histogram, hmem⟩
      obtain ⟨others, hothers, hlabels, hsome, -⟩ :=
        (mem_series huntouched hcopies _ _).mp hmem
      rwa [zip_injective hvalues.symm hothers.symm hlabels]
    · intro hsome
      exact ⟨_, (mem_series huntouched hcopies _ _).mpr ⟨values, hvalues, rfl, hsome, rfl⟩⟩
  · intro labels histogram hmem
    obtain ⟨values, hvalues, rfl, -, rfl⟩ := (mem_series huntouched hcopies _ _).mp hmem
    refine ⟨values, hvalues, rfl, Histogram.count_ofObserved _ _, Histogram.bounds_ofObserved _ _,
      Histogram.pairwise_cumulative _, ?_⟩
    intro hrising hbounds hobserved
    rw [Histogram.cumulative_ofObserved (Histogram.sorted_bounds hrising hbounds),
      List.map_append, List.map_singleton, Histogram.countP_lastBound hobserved,
      Histogram.count_ofObserved]

/-- A value on a bound counts there, and another series keeps its own observations. -/
theorem keeps_observations_bounded :
    let family : HistogramFamily := ⟨3, ["code"], [0.005, 0.01, 2.5]⟩
    let uses : List Store.Use := [.record (.observe (.family family) (.number 0.25) ["200"]),
      .record (.observe (.family family) (.number 0.01) ["503"]),
      .record (.observe (.family family) (.number 0.01) ["200"])]
    (∀ key ∈ Store.empty.histograms.keys, key.family ≠ family.id) ∧
    (∀ use ∈ uses, family.ByCopy use) ∧
    ∃ histogram, ([("code", "200")], histogram)
        ∈ Exposition.seriesOf family.id (Store.empty.after uses).histograms ∧
      histogram.cumulative = [(0.005, 0), (0.01, 1), (2.5, 2), (Bucket.lastBound, 2)] := by
  intro family uses
  have huntouched : ∀ key ∈ Store.empty.histograms.keys, key.family ≠ family.id :=
    fun _ h => absurd h (List.not_mem_nil)
  have hcopies : ∀ use ∈ uses, family.ByCopy use := by
    intro use huse
    simp only [uses, List.mem_cons, List.not_mem_nil, or_false] at huse
    rcases huse with rfl | rfl | rfl <;> exact fun _ => rfl
  have hobserved : family.observed ["200"] uses = [0.25, 0.01] := by decide
  obtain ⟨-, hmade, hkept⟩ := keeps_observations family .empty uses huntouched hcopies
  obtain ⟨histogram, hmem⟩ := (hmade ["200"] rfl).mpr (by rw [hobserved]; simp)
  obtain ⟨values, hvalues, hlabels, hcount, -, -, hlaw⟩ := hkept _ histogram hmem
  have hlength : family.names.length = ["200"].length := rfl
  obtain rfl : ["200"] = values := zip_injective hlength hvalues.symm hlabels
  rw [hobserved] at hcount hlaw
  refine ⟨huntouched, hcopies, histogram, hmem, ?_⟩
  rw [hlaw (by decide) (by decide) (by decide), hcount]
  decide

end HistogramFamily

end Telemetry
