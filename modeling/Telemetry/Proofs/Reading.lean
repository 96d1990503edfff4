/-
Labels can be read back from the exposition.

The exposition writes label values between quotes, as they are.  Whoever reads it takes
what is between the quotes for the value, minds the escapes in it, and expects a comma or
the closing brace behind it.  For any text that comes to a mess; but where names consist of
letters, digits and underscores, and values of visible characters that are neither quotes
nor backslashes, what is read is what was written, and the reader finds its way out of the
braces whatever stands behind them.
-/
import Telemetry.Exposition.Lines

namespace Telemetry.Exposition

/-! ### A reader of labels -/

/-- Whether a character may stand in a label's name. -/
def isNameChar (c : Char) : Bool := c.isAlphanum || c == '_'

/-- What the letter behind a backslash stands for. -/
def unescaped (letter : Char) : Char := if letter = 'n' then '\n' else letter

/-- Reads a label's value, from behind its opening quote up to its closing one, and gives
what follows as well. -/
def readValue : List Char → Option (List Char × List Char)
  | [] => none
  | '"' :: rest => some ([], rest)
  | '\n' :: _ => none
  | '\\' :: letter :: rest => (readValue rest).map fun (value, after) =>
    (unescaped letter :: value, after)
  | c :: rest => (readValue rest).map fun (value, after) => (c :: value, after)

/-- Reads one label, and gives what follows as well. -/
def readLabel (text : List Char) : Option ((String × String) × List Char) :=
  let name := text.takeWhile isNameChar
  match text.dropWhile isNameChar with
  | '=' :: '"' :: rest =>
    if name = [] then none
    else (readValue rest).map fun (value, after) => ((.ofList name, .ofList value), after)
  | _ => none

/-- How labels are read, from behind the opening brace up to the closing one. -/
inductive Reads : List Char → Labels → List Char → Prop
  /-- There is none, or no other. -/
  | closed {rest : List Char} : Reads ('\x7d' :: rest) [] rest
  /-- There is one, and behind it the brace. -/
  | last {text rest : List Char} {one : String × String}
    (read : readLabel text = some (one, '\x7d' :: rest)) : Reads text [one] rest
  /-- There is one, and behind its comma there may be others. -/
  | more {text between rest : List Char} {one : String × String} {others : Labels}
    (read : readLabel text = some (one, ',' :: between)) (reads : Reads between others rest) :
    Reads text (one :: others) rest

/-! ### What was written is what is read -/

/-- Whether a character stands for itself between quotes, and can be seen. -/
def Inert (c : Char) : Prop := '!' ≤ c ∧ c ≤ '~' ∧ c ≠ '"' ∧ c ≠ '\\'

instance (c : Char) : Decidable (Inert c) := by
  unfold Inert
  infer_instance

/-- A name and a value that can be written as they are. -/
structure Clean (one : String × String) : Prop where
  named : one.1.toList ≠ []
  name : ∀ c ∈ one.1.toList, isNameChar c = true
  value : ∀ c ∈ one.2.toList, Inert c

theorem Inert.ne_break {c : Char} (hinert : Inert c) : c ≠ '\n' := by
  rintro rfl
  exact absurd hinert (by decide)

theorem isNameChar_ne_break {c : Char} (hname : isNameChar c = true) : c ≠ '\n' := by
  rintro rfl
  exact absurd hname (by decide)

/-- Characters that stand for themselves are read up to the closing quote. -/
theorem readValue_inert {value : List Char} (hinert : ∀ c ∈ value, Inert c) (rest : List Char) :
    readValue (value ++ '"' :: rest) = some (value, rest) := by
  induction value with
  | nil => rfl
  | cons c value ih =>
      obtain ⟨hc, hvalue⟩ := List.forall_mem_cons.mp hinert
      obtain ⟨-, -, hquote, hbackslash⟩ := id hc
      rw [List.cons_append, readValue.eq_def]
      -- The character neither ends the value nor starts an escape, which leaves the last case.
      split
      · rename_i heq
        cases heq
      · rename_i heq
        exact absurd (List.cons.inj heq).1 hquote
      · rename_i heq
        exact absurd (List.cons.inj heq).1 hc.ne_break
      · rename_i heq
        exact absurd (List.cons.inj heq).1 hbackslash
      · rename_i heq
        obtain ⟨rfl, rfl⟩ := List.cons.inj heq
        rw [ih hvalue]
        rfl

theorem toList_label (name value : String) :
    (label name value).toList = name.toList ++ '=' :: '"' :: (value.toList ++ ['"']) := by
  simp [label]

theorem readLabel_label {one : String × String} (hclean : Clean one) (rest : List Char) :
    readLabel ((label one.1 one.2).toList ++ rest) = some (one, rest) := by
  have hstop : isNameChar '=' = false := by decide
  have htake : ∀ after, (one.1.toList ++ '=' :: after).takeWhile isNameChar = one.1.toList := by
    intro after
    rw [List.takeWhile_append_of_pos hclean.name, List.takeWhile_cons_of_neg (by simp [hstop]),
      List.append_nil]
  have hdrop : ∀ after, (one.1.toList ++ '=' :: after).dropWhile isNameChar = '=' :: after := by
    intro after
    rw [List.dropWhile_append_of_pos hclean.name, List.dropWhile_cons_of_neg (by simp [hstop])]
  have htext : (label one.1 one.2).toList ++ rest
      = one.1.toList ++ '=' :: '"' :: (one.2.toList ++ '"' :: rest) := by
    simp [toList_label]
  rw [readLabel, htext, htake, hdrop]
  simp only [if_neg hclean.named, readValue_inert hclean.value, Option.map_some,
    String.ofList_toList]

theorem labelList_singleton (one : String × String) : labelList [one] = label one.1 one.2 := by
  simp [labelList]

theorem labelList_cons_cons (one two : String × String) (labels : Labels) :
    labelList (one :: two :: labels)
      = label one.1 one.2 ++ "," ++ labelList (two :: labels) := by
  simp [labelList, String.intercalate_cons_cons]

/-- No label starts with the closing brace. -/
theorem readLabel_closed (rest : List Char) : readLabel ('\x7d' :: rest) = none := by
  have hstop : ¬ isNameChar '\x7d' = true := by decide
  rw [readLabel, List.dropWhile_cons_of_neg hstop]
  rfl

/-- Where a label is read, what follows it decides whether there may be others. -/
theorem reads_iff {text next : List Char} {one : String × String}
    (hread : readLabel text = some (one, next)) {others : Labels} {after : List Char} :
    Reads text others after ↔
      (next = '\x7d' :: after ∧ others = [one]) ∨
      ∃ between more, next = ',' :: between ∧ Reads between more after ∧ others = one :: more := by
  constructor
  · intro hreads
    cases hreads with
    | closed => rw [readLabel_closed] at hread; cases hread
    | last read =>
        rw [hread] at read
        cases read
        exact .inl ⟨rfl, rfl⟩
    | more read reads =>
        rw [hread] at read
        cases read
        exact .inr ⟨_, _, rfl, reads, rfl⟩
  · rintro (⟨rfl, rfl⟩ | ⟨between, more, rfl, hreads, rfl⟩)
    · exact .last hread
    · exact .more hread hreads

/-- Labels are read in one way, which gives them back and goes on behind the brace. -/
theorem reads_labelList {labels : Labels} (hclean : ∀ one ∈ labels, Clean one)
    (rest : List Char) {others : Labels} {after : List Char} :
    Reads ((labelList labels).toList ++ '\x7d' :: rest) others after
      ↔ others = labels ∧ after = rest := by
  induction labels generalizing others with
  | nil =>
      have hempty : (labelList []).toList ++ '\x7d' :: rest = '\x7d' :: rest := rfl
      rw [hempty]
      constructor
      · intro hreads
        cases hreads with
        | closed => exact ⟨rfl, rfl⟩
        | last read => rw [readLabel_closed] at read; cases read
        | more read reads => rw [readLabel_closed] at read; cases read
      · rintro ⟨rfl, rfl⟩
        exact .closed
  | cons one labels ih =>
      obtain ⟨hone, hlabels⟩ := List.forall_mem_cons.mp hclean
      cases labels with
      | nil =>
          rw [labelList_singleton, reads_iff (readLabel_label hone _)]
          constructor
          · rintro (⟨hnext, hothers⟩ | ⟨between, more, hnext, -⟩)
            · exact ⟨hothers, (List.cons.inj hnext).2.symm⟩
            · exact absurd (List.cons.inj hnext).1 (by decide)
          · rintro ⟨hothers, rfl⟩
            exact .inl ⟨rfl, hothers⟩
      | cons two labels =>
          have htext : (labelList (one :: two :: labels)).toList ++ '\x7d' :: rest
              = (label one.1 one.2).toList
                ++ ',' :: ((labelList (two :: labels)).toList ++ '\x7d' :: rest) := by
            rw [labelList_cons_cons, String.toList_append, String.toList_append,
              List.append_assoc, List.append_assoc]
            rfl
          rw [htext, reads_iff (readLabel_label hone _)]
          constructor
          · rintro (⟨hnext, -⟩ | ⟨between, more, hnext, hreads, rfl⟩)
            · exact absurd (List.cons.inj hnext).1 (by decide)
            · obtain ⟨-, rfl⟩ := List.cons.inj hnext
              obtain ⟨rfl, rfl⟩ := (ih hlabels).mp hreads
              exact ⟨rfl, rfl⟩
          · rintro ⟨rfl, rfl⟩
            exact .inr ⟨_, _, rfl, (ih hlabels).mpr ⟨rfl, rfl⟩, rfl⟩

/-! ### Labels in their lines -/

theorem breakLines_unbroken {text : List Char} (hunbroken : ∀ c ∈ text, c ≠ '\n') :
    breakLines text = [text] := by
  induction text with
  | nil => rfl
  | cons c rest ih =>
      obtain ⟨hc, hrest⟩ := List.forall_mem_cons.mp hunbroken
      rw [breakLines.eq_3 c rest hc, ih hrest]

theorem label_unbroken {one : String × String} (hclean : Clean one) :
    ∀ c ∈ (label one.1 one.2).toList, c ≠ '\n' := by
  intro c hc
  simp only [toList_label, List.mem_append, List.mem_cons, List.not_mem_nil, or_false] at hc
  rcases hc with hname | rfl | rfl | hvalue | rfl
  · exact isNameChar_ne_break (hclean.name c hname)
  · decide
  · decide
  · exact (hclean.value c hvalue).ne_break
  · decide

/-- Nothing in the labels breaks their line. -/
theorem labelList_unbroken {labels : Labels} (hclean : ∀ one ∈ labels, Clean one) :
    ∀ c ∈ (labelList labels).toList, c ≠ '\n' := by
  induction labels with
  | nil => exact fun _ h => absurd h List.not_mem_nil
  | cons one labels ih =>
      obtain ⟨hone, hlabels⟩ := List.forall_mem_cons.mp hclean
      cases labels with
      | nil =>
          rw [labelList_singleton]
          exact label_unbroken hone
      | cons two labels =>
          intro c hc
          rw [labelList_cons_cons, String.toList_append, String.toList_append, List.append_assoc]
            at hc
          rcases List.mem_append.mp hc with hfirst | hrest
          · exact label_unbroken hone c hfirst
          · rcases List.mem_cons.mp hrest with rfl | hothers
            · decide
            · exact ih hlabels c hothers

/-- A line of a series: what stands before its labels, and what stands behind them. -/
structure Frame where
  before : String
  behind : String

/-- The frame around some labels, and the brace behind them. -/
def Frame.line (frame : Frame) (labels : Labels) : String :=
  frame.before ++ labelList labels ++ "\x7d" ++ frame.behind

/-- What is known of the labels of a series wherever they stand. -/
structure Confined (labels : Labels) : Prop where
  /-- From the place where they start in a line, they are what is read, in one way; reading
  stops behind their brace. -/
  read : ∀ (frame : Frame) (others : Labels) (after : List Char),
    Reads ((frame.line labels).toList.drop frame.before.toList.length) others after
      ↔ others = labels ∧ after = frame.behind.toList
  /-- They are shown on one line. -/
  shown : shownLines (labelList labels) = [labelList labels]

/-- **Clean labels keep to their place.** -/
theorem confined {labels : Labels} (hclean : ∀ one ∈ labels, Clean one) : Confined labels := by
  refine ⟨fun frame others after => ?_, ?_⟩
  · have hline : (frame.line labels).toList = frame.before.toList
        ++ ((labelList labels).toList ++ '\x7d' :: frame.behind.toList) := by
      simp [Frame.line]
    rw [hline, List.drop_left]
    exact reads_labelList hclean frame.behind.toList
  · rw [shownLines, breakLines_unbroken (labelList_unbroken hclean), List.map_singleton,
      String.ofList_toList]

theorem closing_split (value : String) : "\x7d " ++ value = "\x7d" ++ (" " ++ value) := by
  rw [← String.append_assoc]
  rfl

/-- The labels of a counter stand in one place of its line, and nowhere else. -/
theorem counterLines_frames (name : String) (value : UInt64) :
    ∃ frames : List Frame, ∀ labels, counterLines name labels value
      = frames.map fun frame => frame.line labels := by
  refine ⟨[⟨name ++ "_total" ++ "\x7b", " " ++ toString value.toNat⟩], fun labels => ?_⟩
  simp [counterLines, sample, Frame.line, String.append_assoc, closing_split]

/-- So do the labels of a histogram in each of its lines. -/
theorem histogramLines_frames (name : String) (histogram : Histogram) :
    ∃ frames : List Frame, ∀ labels, histogramLines name labels histogram
      = frames.map fun frame => frame.line labels := by
  refine ⟨⟨name ++ "_sum" ++ "\x7b", " " ++ numberFormat.write histogram.sum⟩ ::
    ⟨name ++ "_count" ++ "\x7b", " " ++ toString histogram.count⟩ ::
    histogram.cumulative.map fun bucket =>
      ⟨name ++ "_bucket" ++ "\x7b" ++ label "le" (bound bucket.1) ++ ",",
        " " ++ toString bucket.2⟩, fun labels => ?_⟩
  simp [histogramLines, sample, Frame.line, String.append_assoc, closing_split]

end Telemetry.Exposition
