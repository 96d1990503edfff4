/-
The label values of methods.

A method may be any token, and whoever sends a request chooses it.  Its label value is the
method with its capital letters made small, and it makes no difference whether the value is
found in the table of common methods or made letter by letter.  So methods share a label
value if they differ in capitals only, and a label value, taken for a method, is its own.

No token has a quote in it, a backslash, a blank or anything that is not ASCII, and small
letters are as good as capitals.  So what is recorded under `method` can be written as it is
and read back, and no request gets anything else into the exposition.
-/
import Telemetry.Proofs.Reading
import Telemetry.Proofs.Sufficiency

namespace Telemetry

namespace Http

/-! ### Letters -/

/-- The capital letters, each with its small letter. -/
def letters : List (Char × Char) :=
  "ABCDEFGHIJKLMNOPQRSTUVWXYZ".toList.zip "abcdefghijklmnopqrstuvwxyz".toList

/-- The character, or its small letter if it is a capital. -/
def small (c : Char) : Char := (letters.lookup c).getD c

/-- Two characters that differ in nothing but being capital or small. -/
inductive SameLetter : Char → Char → Prop
  | same (c : Char) : SameLetter c c
  | capital {big little : Char} (listed : (big, little) ∈ letters) : SameLetter big little
  | little {big little : Char} (listed : (big, little) ∈ letters) : SameLetter little big

theorem small_letters : ∀ entry ∈ letters, small entry.1 = entry.2 ∧ small entry.2 = entry.2 := by
  decide

theorem letters_inj : ∀ one ∈ letters, ∀ other ∈ letters, one.2 = other.2 → one.1 = other.1 := by
  decide

/-- A character stays as it is, or it is a capital. -/
theorem small_cases (c : Char) : small c = c ∨ (c, small c) ∈ letters := by
  unfold small
  cases hc : letters.lookup c with
  | none => exact .inl rfl
  | some little =>
      obtain ⟨front, back, hsplit, -⟩ := List.lookup_eq_some_iff.mp hc
      refine .inr ?_
      rw [hsplit]
      simp

theorem small_eq_iff {c d : Char} : small c = small d ↔ SameLetter c d := by
  constructor
  · intro h
    rcases small_cases c with hc | hc
    · rcases small_cases d with hd | hd
      · rw [← hc, h, hd]
        exact .same d
      · rw [← h, hc] at hd
        exact .little hd
    · rcases small_cases d with hd | hd
      · rw [h, hd] at hc
        exact .capital hc
      · have hsame : c = d := letters_inj _ hc _ hd h
        rw [hsame]
        exact .same d
  · rintro (_ | hlisted | hlisted)
    · rfl
    · obtain ⟨hbig, hlittle⟩ := small_letters _ hlisted
      rw [hbig, hlittle]
    · obtain ⟨hbig, hlittle⟩ := small_letters _ hlisted
      rw [hbig, hlittle]

/-! ### Characters of tokens -/

/-- A token is ASCII. -/
theorem ascii_of_isTokenChar {c : Char} (h : isTokenChar c = true) : c.toNat < 128 := by
  have hmarks : tokenMarks.all (fun mark => mark.toNat < 128) = true := by decide
  rw [isTokenChar, Bool.or_eq_true] at h
  rcases h with halphanum | hmark
  · have hrange : ((65 ≤ c.toNat ∧ c.toNat ≤ 90) ∨ (97 ≤ c.toNat ∧ c.toNat ≤ 122)) ∨
        (48 ≤ c.toNat ∧ c.toNat ≤ 57) := by
      rcases Bool.or_eq_true_iff.mp halphanum with halpha | hdigit
      · rcases Bool.or_eq_true_iff.mp halpha with hupper | hlower
        · exact .inl (.inl (of_decide_eq_true hupper))
        · exact .inl (.inr
            ((Bool.and_eq_true_iff.mp hlower).imp of_decide_eq_true of_decide_eq_true))
      · exact .inr ((Bool.and_eq_true_iff.mp hdigit).imp of_decide_eq_true of_decide_eq_true)
    omega
  · have hone := List.all_eq_true.mp hmarks c (List.contains_iff_mem.mp hmark)
    exact of_decide_eq_true hone

/-- All that is needed of a token's characters made small, checked one by one. -/
theorem small_ascii : ∀ n < 128, isTokenChar (.ofNat n) = true →
    (Char.ofNat n).toLower = small (.ofNat n) ∧ isTokenChar (small (.ofNat n)) = true ∧
      small (small (.ofNat n)) = small (.ofNat n) ∧ Exposition.Inert (small (.ofNat n)) ∧
      small (.ofNat n) ∉ letters.map Prod.fst := by
  decide +kernel

section Token

variable {c : Char} (htoken : isTokenChar c = true)

include htoken

theorem small_token :
    c.toLower = small c ∧ isTokenChar (small c) = true ∧ small (small c) = small c ∧
      Exposition.Inert (small c) ∧ small c ∉ letters.map Prod.fst := by
  have hone := small_ascii c.toNat (ascii_of_isTokenChar htoken)
  rw [Char.ofNat_toNat] at hone
  exact hone htoken

theorem toLower_eq_small : c.toLower = small c := (small_token htoken).1

theorem isTokenChar_small : isTokenChar (small c) = true := (small_token htoken).2.1

theorem small_small : small (small c) = small c := (small_token htoken).2.2.1

theorem inert_small : Exposition.Inert (small c) := (small_token htoken).2.2.2.1

theorem small_notMem : small c ∉ letters.map Prod.fst := (small_token htoken).2.2.2.2

end Token

/-! ### The label value of a method -/

/-- A text that can be written as a label value as it is, and has no capital letter. -/
structure Harmless (value : String) : Prop where
  nonempty : value ≠ ""
  /-- Only characters of ASCII that can be seen, so neither blanks nor line breaks. -/
  visible : ∀ c ∈ value.toList, '!' ≤ c ∧ c ≤ '~'
  little : ∀ entry ∈ letters, entry.1 ∉ value.toList
  unquoted : '"' ∉ value.toList
  unescaped : '\\' ∉ value.toList

namespace Method

/-- The methods whose label values are in the table. -/
def verbs : List String :=
  ["GET", "POST", "PUT", "DELETE", "HEAD", "OPTIONS", "CONNECT", "PATCH", "TRACE"]

theorem token_text (method : Method) :
    method.text.toList ≠ [] ∧ ∀ c ∈ method.text.toList, isTokenChar c = true := by
  have htoken := method.token
  rw [isToken, Bool.and_eq_true] at htoken
  exact ⟨by simpa using htoken.1, List.all_eq_true.mp htoken.2⟩

theorem toList_lowered (method : Method) :
    method.lowered.toList = method.text.toList.map small := by
  rw [lowered, String.toList_ofList]
  exact List.map_congr_left fun c hc => toLower_eq_small (method.token_text.2 c hc)

theorem toList_label (method : Method) : method.label.toList = method.text.toList.map small := by
  rw [method.label_eq, method.toList_lowered]

theorem token_label (method : Method) : isToken method.label.toList = true := by
  obtain ⟨hne, hchars⟩ := method.token_text
  rw [method.toList_label, isToken, Bool.and_eq_true, List.all_eq_true]
  refine ⟨by simpa using hne, fun c hc => ?_⟩
  obtain ⟨d, hd, rfl⟩ := List.mem_map.mp hc
  exact isTokenChar_small (hchars d hd)

theorem harmless_label (method : Method) : Harmless method.label := by
  obtain ⟨hne, hchars⟩ := method.token_text
  have hmade : ∀ c ∈ method.label.toList, Exposition.Inert c ∧ c ∉ letters.map Prod.fst := by
    intro c hc
    rw [method.toList_label] at hc
    obtain ⟨d, hd, rfl⟩ := List.mem_map.mp hc
    exact ⟨inert_small (hchars d hd), small_notMem (hchars d hd)⟩
  refine ⟨?_, fun c hc => ?_, fun entry hentry hmem => ?_, fun hmem => ?_, fun hmem => ?_⟩
  · intro hempty
    have htext := method.toList_label
    rw [hempty] at htext
    exact hne (List.map_eq_nil_iff.mp htext.symm)
  · obtain ⟨⟨hlow, hhigh, -⟩, -⟩ := hmade c hc
    exact ⟨hlow, hhigh⟩
  · exact (hmade _ hmem).2 (List.mem_map_of_mem hentry)
  · exact absurd (hmade _ hmem).1 (by decide)
  · exact absurd (hmade _ hmem).1 (by decide)

theorem label_eq_iff {method other : Method} :
    method.label = other.label
      ↔ List.Forall₂ SameLetter method.text.toList other.text.toList := by
  rw [← String.toList_inj, toList_label, toList_label, ← List.forall₂_eq_eq_eq,
    List.forall₂_map_left_iff, List.forall₂_map_right_iff]
  simp only [small_eq_iff]

/-- A method that is written like a label value has that label value. -/
theorem label_again {method other : Method} (htext : other.text = method.label) :
    other.label = method.label := by
  rw [← String.toList_inj, toList_label, htext, toList_label, List.map_map]
  refine List.map_congr_left fun c hc => ?_
  exact small_small (method.token_text.2 c hc)

theorem isSome_commonLabel? (method : Method) :
    method.commonLabel?.isSome ↔ method.text ∈ verbs := by
  have hverbs : common.map Prod.fst = verbs := by decide
  rw [commonLabel?, List.lookup_isSome_iff, ← hverbs, List.mem_map]
  refine exists_congr fun entry => and_congr_right fun _ => ?_
  rw [beq_iff_eq, eq_comm]

/-- All there is to know about the label value of one method. -/
structure Labelled (method : Method) : Prop where
  /-- Each capital letter is made small, and all else is left. -/
  text : method.label.toList = method.text.toList.map small
  /-- A value in the table is the one that would be made letter by letter. -/
  table : ∀ value, method.commonLabel? = some value →
    method.label = value ∧ value.toList = method.text.toList.map small
  made : method.commonLabel? = none →
    method.label = method.lowered ∧ method.lowered.toList = method.text.toList.map small
  common : method.commonLabel?.isSome ↔ method.text ∈ verbs
  harmless : Harmless method.label
  /-- The value may itself be a method's text, and then is that method's label value. -/
  again : isToken method.label.toList = true ∧
    ∀ other : Method, other.text = method.label → other.label = method.label

theorem labelled (method : Method) : method.Labelled := by
  refine ⟨method.toList_label, fun value hvalue => ?_, fun hnone => ?_, method.isSome_commonLabel?,
    method.harmless_label, method.token_label, fun _ htext => label_again htext⟩
  · have hlabel : method.label = value := by rw [label, hvalue, Option.getD_some]
    exact ⟨hlabel, by rw [← hlabel, method.toList_label]⟩
  · exact ⟨by rw [label, hnone, Option.getD_none], method.toList_lowered⟩

end Method

end Http

/-! ### The labels that are recorded -/

/-- Labels that can be written as they are, with a harmless value for the method. -/
structure Labels.Safe (labels : Labels) : Prop where
  clean : ∀ one ∈ labels, Exposition.Clean one
  method : ∀ value, ("method", value) ∈ labels → Http.Harmless value

/-- The label names that an effect hands values over for, each with its value. -/
def Effect.labels : Effect → Labels
  | .count sink values => sink.names.zip values
  | .observe sink _ values => sink.names.zip values
  | _ => []

/-- Whether an effect hands over safe labels, if it hands over any. -/
def Effect.Safe (effect : Effect) : Prop := effect.labels.Safe

/-- What all series that were ever touched are found under. -/
def Store.keys (store : Store) : List SeriesKey := store.counters.keys ++ store.histograms.keys

/-- Whether all series that were touched are under safe labels. -/
def Store.Safe (store : Store) : Prop := ∀ key ∈ store.keys, key.labels.Safe

theorem Labels.eq_zip {names values : List String} {labels : Labels}
    (hof : Labels.of names values = .ok labels) : labels = names.zip values := by
  rw [Labels.of] at hof
  by_cases hlength : names.length = values.length
  · rw [if_pos hlength] at hof
    exact (Except.ok.inj hof).symm
  · rw [if_neg hlength] at hof
    cases hof

theorem Labels.safe_nil : Labels.Safe [] :=
  ⟨fun _ h => absurd h List.not_mem_nil, fun _ h => absurd h List.not_mem_nil⟩

theorem Http.Harmless.inert {value : String} (hharmless : Http.Harmless value) :
    ∀ c ∈ value.toList, Exposition.Inert c := by
  intro c hc
  obtain ⟨hlow, hhigh⟩ := hharmless.visible c hc
  refine ⟨hlow, hhigh, ?_, ?_⟩
  · rintro rfl
    exact hharmless.unquoted hc
  · rintro rfl
    exact hharmless.unescaped hc

theorem Exposition.Inert.of_isDigit {c : Char} (hdigit : c.isDigit = true) :
    Exposition.Inert c := by
  simp only [Char.isDigit, Bool.and_eq_true, decide_eq_true_eq, ge_iff_le] at hdigit
  obtain ⟨hzero, hnine⟩ := hdigit
  have hlow : '!' ≤ '0' := by decide
  have hhigh : '9' ≤ '~' := by decide
  refine ⟨Char.le_trans hlow hzero, Char.le_trans hnine hhigh, ?_, ?_⟩
  · rintro rfl
    exact absurd hzero (by decide)
  · rintro rfl
    exact absurd hnine (by decide)

theorem Http.Status.inert_text (status : Http.Status) :
    ∀ c ∈ status.text.toList, Exposition.Inert c := by
  intro c hc
  rw [Http.Status.text, Nat.toString_eq_repr, Nat.toList_repr] at hc
  exact .of_isDigit (Nat.isDigit_of_mem_toDigits (by decide) (by decide) hc)

theorem Phase.inert_name (phase : Phase) : ∀ c ∈ phase.name.toList, Exposition.Inert c := by
  have hall : phase.name.toList.all (fun c => Exposition.Inert c) = true := by
    cases phase <;> decide
  exact fun c hc => of_decide_eq_true (List.all_eq_true.mp hall c hc)

/-- A value that a name has on some occasion is fit to be written, and so is the name. -/
theorem Occasion.clean_value {occasion : Occasion} {name value : String}
    (hvalue : occasion.value? name = some value) :
    Exposition.Clean (name, value) ∧ (name = "method" → Http.Harmless value) := by
  have hnames : ∀ known ∈ ["code", "method", "event"], known.toList ≠ [] ∧
      known.toList.all Exposition.isNameChar = true := by decide
  have hknown : name ∈ ["code", "method", "event"] → (∀ c ∈ value.toList, Exposition.Inert c) →
      Exposition.Clean (name, value) :=
    fun hname hinert =>
      ⟨(hnames name hname).1, List.all_eq_true.mp (hnames name hname).2, hinert⟩
  cases occasion with
  | handed => cases hvalue
  | reported event =>
      rw [value?] at hvalue
      by_cases hevent : name = eventLabel
      · rw [if_pos hevent] at hvalue
        cases hvalue
        exact ⟨hknown (by simp [hevent, eventLabel]) event.phase.inert_name,
          by simp [hevent, eventLabel]⟩
      · rw [if_neg hevent] at hvalue
        cases hvalue
  | seen method progress =>
      cases progress with
      | pending => cases hvalue
      | failed error => cases hvalue
      | answered response =>
          rw [value?] at hvalue
          by_cases hcode : name = Label.code.name
          · rw [if_pos hcode] at hvalue
            cases hvalue
            exact ⟨hknown (by simp [hcode, Label.name]) response.status.inert_text,
              by simp [hcode, Label.name]⟩
          · rw [if_neg hcode] at hvalue
            by_cases hmethod : name = Label.method.name
            · rw [if_pos hmethod, ← method.label_eq] at hvalue
              cases hvalue
              exact ⟨hknown (by simp [hmethod, Label.name]) method.harmless_label.inert,
                fun _ => method.harmless_label⟩
            · rw [if_neg hmethod] at hvalue
              cases hvalue

theorem Occasion.safe_labels {occasion : Occasion} {names : List String} {labels : Labels}
    (hlabels : occasion.labels names = some labels) : labels.Safe := by
  have hone : ∀ one ∈ labels, occasion.value? one.1 = some one.2 := by
    rw [Occasion.labels] at hlabels
    induction names generalizing labels with
    | nil =>
        cases hlabels
        exact fun _ h => absurd h List.not_mem_nil
    | cons name names ih =>
        rw [List.mapM_cons] at hlabels
        obtain ⟨first, hfirst, hlabels⟩ := Option.bind_eq_some_iff.mp hlabels
        obtain ⟨others, hothers, hlabels⟩ := Option.bind_eq_some_iff.mp hlabels
        obtain ⟨value, hvalue, rfl⟩ := Option.map_eq_some_iff.mp hfirst
        cases hlabels
        exact List.forall_mem_cons.mpr ⟨hvalue, ih hothers⟩
  exact ⟨fun one hmem => (clean_value (hone one hmem)).1,
    fun value hmem => (clean_value (hone _ hmem)).2 rfl⟩

theorem Effect.Supplied.safe {occasion : Occasion} {effect : Effect}
    (hsupplied : effect.Supplied occasion) : effect.Safe := by
  have hzip : ∀ {names values : List String}, occasion.Supplies names values →
      Labels.Safe (names.zip values) := by
    rintro names values ⟨labels, hlabels, hof⟩
    rw [← Labels.eq_zip hof]
    exact Occasion.safe_labels hlabels
  cases effect with
  | count sink values => exact hzip hsupplied
  | observe sink reading values => exact hzip hsupplied
  | raise | lower | note | hear | log => exact Labels.safe_nil

/-! ### What is recorded in a run -/

theorem Phase.safe_label (phase : Phase) : Labels.Safe [(eventLabel, phase.name)] := by
  refine ⟨fun one hone => ?_, fun value hvalue => ?_⟩
  · rw [List.mem_singleton.mp hone]
    have hname : eventLabel.toList ≠ [] ∧
        eventLabel.toList.all Exposition.isNameChar = true := by decide
    exact ⟨hname.1, List.all_eq_true.mp hname.2, phase.inert_name⟩
  · have hname : "method" = eventLabel := congrArg Prod.fst (List.mem_singleton.mp hvalue)
    exact absurd hname (by decide)

/-- A layer whose labels were checked, or one that hands over safe labels whatever it is
given. -/
def Layer.Guarded (layer : Layer) : Prop := layer.Validated ∨ layer.Only Effect.Safe

theorem Effect.safe_log (record : LogRecord) : (Effect.log record).Safe := Labels.safe_nil

/-- The timer of a suited layer hands over the event alone. -/
theorem Layer.Suited.safe_timers {layer : Layer} (hsuited : layer.Suited) (start : Instant) :
    ∀ leaf ∈ layer.timers start, leaf.Only Effect.Safe := by
  intro leaf hleaf
  cases hsuited with
  | inFlight gauge => exact absurd hleaf List.not_mem_nil
  | record hnames => exact absurd hleaf List.not_mem_nil
  | @trace sink hnames =>
      rw [List.mem_singleton.mp hleaf]
      intro phase hook hhook reading
      rw [HookTable.hook?_observing] at hhook
      cases hhook
      rw [Hook.call, Effect.Safe, Effect.labels, hnames]
      exact phase.safe_label

/-- Of a request, a suited layer records what it was seen to come to. -/
theorem Layer.Suited.safe_share {layer : Layer} (hsuited : layer.Suited) (journey : Journey) :
    ∀ effect ∈ layer.share journey.start journey.method journey.sights, effect.Safe := by
  intro effect hmem
  cases hsuited with
  | inFlight gauge =>
      have honly : (Layer.inFlight gauge).Only Effect.Safe := ⟨Labels.safe_nil, Labels.safe_nil⟩
      exact honly.share Effect.safe_log journey effect hmem
  | @record recorder order hnames =>
      rw [Journey.share_record] at hmem
      cases hsettled : journey.settled? with
      | none =>
          rw [hsettled] at hmem
          exact absurd hmem List.not_mem_nil
      | some first =>
          rw [hsettled] at hmem
          exact (Layer.Suited.supplied_settle hnames journey.request.method journey.start first.1
            first.2 effect hmem).safe
  | trace hnames => exact absurd hmem List.not_mem_nil

theorem Journey.safe_deeds {journey : Journey}
    (hlayers : ∀ layer ∈ journey.stack, layer.Guarded)
    (hown : ∀ leaf ∈ journey.request.leaves, leaf.Only Effect.Safe) :
    ∀ effect ∈ journey.deeds, effect.Safe := by
  intro effect hmem
  rcases List.mem_append.mp hmem with hrecorded | htold
  · obtain ⟨layer, hlayer, hshare⟩ := List.mem_flatMap.mp hrecorded
    rcases hlayers layer hlayer with hvalidated | honly
    · exact hvalidated.suited.safe_share journey effect hshare
    · exact honly.share Effect.safe_log journey effect hshare
  · refine told_only Effect.safe_log hown (fun layer hlayer => ?_) effect htold
    rcases hlayers layer hlayer with hvalidated | honly
    · exact hvalidated.suited.safe_timers journey.start
    · exact honly.timers journey.start

namespace Store

theorem safe_empty : Store.empty.Safe := fun _ h => absurd h List.not_mem_nil

theorem mem_keys_alter {α : Type} {table : Table SeriesKey α} {key other : SeriesKey}
    {change : Option α → α} (hmem : other ∈ (table.alter key change).keys) :
    other ∈ table.keys ∨ other = key := by
  rw [Table.keys_alter] at hmem
  by_cases hkey : key ∈ table.keys
  · rw [if_pos hkey] at hmem
    exact .inl hmem
  · rw [if_neg hkey] at hmem
    simpa using hmem

/-- An effect touches no new series but the one under its own labels. -/
theorem mem_keys_apply {store after : Store} {effect : Effect}
    (happly : store.apply effect = .ok after) {key : SeriesKey} (hkey : key ∈ after.keys) :
    key ∈ store.keys ∨ key.labels = effect.labels := by
  cases effect with
  | raise sink => cases sink <;> cases happly <;> exact .inl hkey
  | lower sink => cases sink <;> cases happly <;> exact .inl hkey
  | count sink values =>
      cases sink with
      | probe name labels =>
          cases happly
          exact .inl hkey
      | family family =>
          rw [Store.apply, Store.count] at happly
          cases hof : Labels.of family.names values with
          | error mismatch => rw [hof] at happly; cases happly
          | ok labels =>
              rw [hof] at happly
              cases happly
              rcases List.mem_append.mp hkey with hcounter | hhistogram
              · rcases mem_keys_alter hcounter with hold | rfl
                · exact .inl (List.mem_append_left _ hold)
                · exact .inr (Labels.eq_zip hof)
              · exact .inl (List.mem_append_right _ hhistogram)
  | observe sink reading values =>
      cases sink with
      | probe name labels =>
          cases happly
          exact .inl hkey
      | family family =>
          rw [Store.apply, Store.observe] at happly
          cases hof : Labels.of family.names values with
          | error mismatch => rw [hof] at happly; cases happly
          | ok labels =>
              rw [hof] at happly
              cases happly
              rcases List.mem_append.mp hkey with hcounter | hhistogram
              · exact .inl (List.mem_append_left _ hcounter)
              · rcases mem_keys_alter hhistogram with hold | rfl
                · exact .inl (List.mem_append_right _ hold)
                · exact .inr (Labels.eq_zip hof)
  | note | hear | log =>
      cases happly
      exact .inl hkey

theorem Safe.apply {store after : Store} (hsafe : store.Safe) {effect : Effect}
    (heffect : effect.Safe) (happly : store.apply effect = .ok after) : after.Safe := by
  intro key hkey
  rcases mem_keys_apply happly hkey with hold | hnew
  · exact hsafe key hold
  · rw [hnew]
    exact heffect

theorem Safe.applyAll {effects : List Effect} (heffects : ∀ effect ∈ effects, effect.Safe)
    {store after : Store} (hsafe : store.Safe) (happly : store.applyAll effects = .ok after) :
    after.Safe := by
  induction effects generalizing store with
  | nil =>
      cases happly
      exact hsafe
  | cons effect rest ih =>
      obtain ⟨heffect, hrest⟩ := List.forall_mem_cons.mp heffects
      rw [Store.applyAll, List.foldlM_cons] at happly
      cases hfirst : store.apply effect with
      | error mismatch => rw [hfirst] at happly; cases happly
      | ok next =>
          rw [hfirst] at happly
          exact ih hrest (hsafe.apply heffect hfirst) happly

end Store

/-- What the exposition makes of the series that were touched. -/
structure Store.Legible (store : Store) : Prop where
  /-- A counter's labels keep to their place, and the rest of its line has nothing to do with
  them. -/
  counters : ∀ (family : CounterFamily) (name : String),
    ∀ one ∈ Exposition.seriesOf family.id store.counters,
      one.1.Safe ∧ Exposition.Confined one.1 ∧ ∃ frames : List Exposition.Frame, ∀ labels,
        Exposition.counterLines name labels one.2 = frames.map fun frame => frame.line labels
  /-- So do a histogram's in each of its lines. -/
  histograms : ∀ (family : HistogramFamily) (name : String),
    ∀ one ∈ Exposition.seriesOf family.id store.histograms,
      one.1.Safe ∧ Exposition.Confined one.1 ∧ ∃ frames : List Exposition.Frame, ∀ labels,
        Exposition.histogramLines name labels one.2 = frames.map fun frame => frame.line labels

theorem Exposition.mem_seriesOf {α : Type} {family : MetricId} {table : Table SeriesKey α}
    {one : Labels × α} (hmem : one ∈ seriesOf family table) :
    ∃ key ∈ table.keys, key.labels = one.1 := by
  obtain ⟨⟨key, value⟩, hentry, hone⟩ := List.mem_filterMap.mp hmem
  refine ⟨key, List.mem_map.mpr ⟨_, hentry, rfl⟩, ?_⟩
  by_cases hfamily : key.family = family
  · simp only [if_pos hfamily] at hone
    rw [← Option.some.inj hone]
  · simp only [if_neg hfamily] at hone
    cases hone

theorem Store.Safe.legible {store : Store} (hsafe : store.Safe) : store.Legible := by
  refine ⟨fun family name one hone => ?_, fun family name one hone => ?_⟩
  · obtain ⟨key, hkey, hlabels⟩ := Exposition.mem_seriesOf hone
    have hone : Labels.Safe one.1 := hlabels ▸ hsafe key (List.mem_append_left _ hkey)
    exact ⟨hone, Exposition.confined hone.clean, Exposition.counterLines_frames name one.2⟩
  · obtain ⟨key, hkey, hlabels⟩ := Exposition.mem_seriesOf hone
    have hone : Labels.Safe one.1 := hlabels ▸ hsafe key (List.mem_append_right _ hkey)
    exact ⟨hone, Exposition.confined hone.clean, Exposition.histogramLines_frames name one.2⟩

theorem History.safe_effects {history : History} (hfaithful : history.Faithful)
    (hjourneys : ∀ journey ∈ history.journeys, (∀ layer ∈ journey.stack, layer.Guarded) ∧
      ∀ leaf ∈ journey.request.leaves, leaf.Only Effect.Safe) :
    ∀ effect ∈ history.effects, effect.Safe := by
  intro effect hmem
  obtain ⟨journey, hjourney, hdeed⟩ := List.mem_flatMap.mp (hfaithful.accounted.mem_iff.mp hmem)
  obtain ⟨hlayers, hown⟩ := hjourneys journey hjourney
  exact journey.safe_deeds hlayers hown effect hdeed

theorem exists_of_forall₂ {α β : Type} {R : α → β → Prop} {as : List α} {bs : List β}
    (hall : List.Forall₂ R as bs) {b : β} (hb : b ∈ bs) : ∃ a, R a b := by
  induction hall with
  | nil => exact absurd hb List.not_mem_nil
  | cons hfirst _ ih =>
      rcases List.mem_cons.mp hb with rfl | hrest
      · exact ⟨_, hfirst⟩
      · exact ih hrest

theorem History.safe_rounds (history : History) (step : Traffic.Step) :
    ∀ round ∈ history.rounds step, ∀ layer : Layer, layer.Validated →
      ∀ effect ∈ round.share layer, effect.Safe := by
  intro round hround layer hvalidated effect hmem
  obtain ⟨occasion, hsupplied⟩ := exists_of_forall₂ (history.rounds_supplied step) hround
  exact (hsupplied layer hvalidated effect hmem).1.safe

/--
**No request gets anything into the exposition by its method.**

Made from the table or letter by letter, the label value of a method is the method with
capital letters made small; so methods that differ in capitals only share it, and no others
do.  In a run, layers whose labels were checked record harmless values only, and if all
layers and listeners do, so does the store, and the exposition of each series is one from
which its labels are read back.
-/
theorem Http.Method.labels_harmless :
    (∀ method : Http.Method, method.Labelled) ∧
    (∀ method other : Http.Method, method.label = other.label ↔
      List.Forall₂ Http.SameLetter method.text.toList other.text.toList) ∧
    (∀ (traffic : Traffic) (steps : List Traffic.Step), traffic.exchanges = .empty →
      let history := (History.start traffic).run steps
      (∀ step,
        (history.traffic.step step).effects
            = (history.rounds step).flatMap (Round.effects (history.passed step)) ∧
          ∀ round ∈ history.rounds step, ∀ layer : Layer, layer.Validated →
            ∀ effect ∈ round.share layer, effect.Safe) ∧
      ((∀ service ∈ traffic.services, ∀ layer ∈ service.stack, layer.Guarded) →
        (∀ step ∈ steps, ∀ request ∈ step.request?, ∀ leaf ∈ request.leaves,
          leaf.Only Effect.Safe) →
        (∀ effect ∈ history.effects, effect.Safe) ∧
        ∀ store after : Store, store.Safe → store.applyAll history.effects = .ok after →
          after.Safe ∧ after.Legible)) := by
  refine ⟨Http.Method.labelled, fun method other => Http.Method.label_eq_iff, ?_⟩
  intro traffic steps hidle history
  have hfaithful : history.Faithful := .run hidle steps
  refine ⟨fun step => ⟨hfaithful.step_effects step, history.safe_rounds step⟩, ?_⟩
  intro hguarded hown
  have heffects := History.safe_effects hfaithful
    (History.journeys_within (S := fun stack => ∀ layer ∈ stack, layer.Guarded)
      (R := fun request => ∀ leaf ∈ request.leaves, leaf.Only Effect.Safe)
      (fun _ h => absurd h List.not_mem_nil) hown hguarded)
  refine ⟨heffects, fun store after hsafe happly => ?_⟩
  have hafter := hsafe.applyAll heffects happly
  exact ⟨hafter, hafter.legible⟩

/-- A method that nobody expects, in odd letters, through a bundle. -/
theorem Http.Method.labels_harmless_odd :
    let bundle := ((Bundle.register ⟨[], []⟩).run .empty).1
    let traffic : Traffic := ⟨.start, .ready, [⟨bundle.layers, .scripted, 0⟩], .empty⟩
    let request : Request := ⟨⟨"PuRGe!", by decide⟩, .ofString "/", .none, "", none⟩
    let response : Http.Response := ⟨⟨503, by decide, by decide⟩, .none, ""⟩
    let steps : List Traffic.Step :=
      [.call "a" 0 request [], .settle "a" (.answered response), .look "a"]
    (∀ service ∈ traffic.services, ∀ layer ∈ service.stack, layer.Guarded) ∧
    ∃ after : Store, Store.empty.applyAll ((History.start traffic).run steps).effects = .ok after ∧
      after.counters.keys = [bundle.requests.key ["503", "purge!"]] ∧ after.Legible := by
  intro bundle traffic request response steps
  have hguarded : ∀ service ∈ traffic.services, ∀ layer ∈ service.stack, layer.Guarded := by
    intro service hservice layer hlayer
    rw [List.mem_singleton.mp hservice] at hlayer
    exact .inl ⟨.metrics bundle, .new, _, _, .registered ⟨[], []⟩ .empty, rfl, rfl, hlayer⟩
  have hown : ∀ step ∈ steps, ∀ handed ∈ step.request?, ∀ leaf ∈ handed.leaves,
      leaf.Only Effect.Safe := by
    intro step hstep handed hhanded leaf hleaf
    simp only [steps, List.mem_cons, List.not_mem_nil, or_false] at hstep
    rcases hstep with rfl | rfl | rfl <;> cases hhanded
    exact absurd hleaf List.not_mem_nil
  obtain ⟨-, -, hruns⟩ := labels_harmless
  obtain ⟨-, hall⟩ := hruns traffic steps rfl
  obtain ⟨-, hstores⟩ := hall hguarded hown
  obtain ⟨after, hafter, hkeys⟩ : ∃ after : Store,
      Store.empty.applyAll ((History.start traffic).run steps).effects = .ok after ∧
      after.counters.keys = [bundle.requests.key ["503", "purge!"]] :=
    ⟨_, rfl, by decide +kernel⟩
  exact ⟨hguarded, after, hafter, hkeys, (hstores _ after Store.safe_empty hafter).2⟩

end Telemetry
