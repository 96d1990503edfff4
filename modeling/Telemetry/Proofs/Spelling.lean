/-
A message names one error.

What is between quotes is spelt character by character.  Six characters have an escape of
one letter, some others are written by their number, and the rest stand for themselves.
Which characters are written by number is a matter of taste, and differs from one edition
of the character tables to the next; nothing here depends on it.  However it is decided, a
spelling can be told from whatever follows it: a backslash announces an escape, the letter
behind it says of which kind, and a number ends at its brace.

So it is said of each kind of text, from the inside out, that the text and what follows it
can be told apart: of a character's spelling, of a quoted name, of a list of quoted names.
A quote inside a name is escaped, so the first quote that is not is the end of the name;
only a list has commas between its names.  In the end the words around the names tell the
three kinds of error from each other.
-/
import Mathlib.Data.List.Basic
import Mathlib.Data.List.Forall2
import Telemetry.Label.Error

namespace Telemetry

namespace Text

/-! ### Numbers in hexadecimal -/

/-- The sixteen digits, in order. -/
def hexDigits : List Char := "0123456789abcdef".toList

/-- The number that digits stand for. -/
def hexValue (digits : List Char) : Nat :=
  digits.foldl (fun value digit => 16 * value + hexDigits.idxOf digit) 0

theorem digitChar_hex : ∀ n < 16, n.digitChar ∈ hexDigits ∧ hexDigits.idxOf n.digitChar = n := by
  decide

/-- What a number's digits are: nothing but digits, worth the number, and with a zero in
front only for zero itself. -/
theorem toDigits_hex (n : Nat) :
    (∀ digit ∈ Nat.toDigits 16 n, digit ∈ hexDigits) ∧ hexValue (Nat.toDigits 16 n) = n ∧
      (0 < n → (Nat.toDigits 16 n).head? ≠ some '0') := by
  induction n using Nat.strongRecOn with
  | ind n ih =>
      rcases Nat.lt_or_ge n 16 with hone | hmore
      · rw [Nat.toDigits_of_lt_base hone]
        obtain ⟨hmem, hvalue⟩ := digitChar_hex n hone
        refine ⟨by simpa using hmem, by simpa [hexValue] using hvalue, ?_⟩
        intro hpos hzero
        have hchar : n.digitChar = '0' := by simpa using hzero
        have hn : n = 0 := by rw [← hvalue, hchar]; decide
        omega
      · have hlast : n % 16 < 16 := Nat.mod_lt n (by omega)
        obtain ⟨hmem, hvalue⟩ := digitChar_hex (n % 16) hlast
        obtain ⟨hfront, hworth, hhead⟩ := ih (n / 16) (by omega)
        rw [Nat.toDigits_of_base_le (by omega) hmore]
        refine ⟨?_, ?_, ?_⟩
        · intro digit hdigit
          rcases List.mem_append.mp hdigit with hold | hnew
          · exact hfront digit hold
          · rw [List.mem_singleton.mp hnew]
            exact hmem
        · rw [hexValue] at hworth ⊢
          rw [List.foldl_append, hworth, List.foldl_cons, List.foldl_nil, hvalue]
          omega
        · intro _
          rw [List.head?_append_of_ne_nil _ Nat.toDigits_ne_nil]
          exact hhead (by omega)

/-! ### Spelling a character -/

/-- The characters with an escape of one letter, each with its letter. -/
def shortEscapes : List (Char × Char) :=
  [('\x00', '0'), ('\t', 't'), ('\r', 'r'), ('\n', 'n'), ('"', '"'), ('\\', '\\')]

/-- How a character may be written between quotes. -/
inductive Spells : Char → List Char → Prop
  /-- As a backslash and a letter. -/
  | short {c letter : Char} (listed : (c, letter) ∈ shortEscapes) : Spells c ['\\', letter]
  /-- By its number, in hexadecimal and without leading zeros. -/
  | numbered {c : Char} {digits : List Char} (long : c ∉ shortEscapes.map Prod.fst)
    (hex : ∀ digit ∈ digits, digit ∈ hexDigits) (leading : digits.head? ≠ some '0')
    (value : hexValue digits = c.toNat) :
    Spells c ('\\' :: 'u' :: '\x7b' :: (digits ++ ['\x7d']))
  /-- As it is. -/
  | plain {c : Char} (long : c ∉ shortEscapes.map Prod.fst) : Spells c [c]

theorem shortEscapes_unique :
    ∀ one ∈ shortEscapes, ∀ other ∈ shortEscapes, one.2 = other.2 → one.1 = other.1 := by
  decide

/-- The letter of a short escape does not announce a number. -/
theorem shortEscapes_letter : ∀ one ∈ shortEscapes, one.2 ≠ 'u' := by decide

theorem ne_backslash {c : Char} (hlong : c ∉ shortEscapes.map Prod.fst) : c ≠ '\\' := by
  rintro rfl
  exact hlong (by decide)

theorem escape_short : ∀ one ∈ shortEscapes, escape one.1 = ['\\', one.2] := by decide

theorem spells_escape (c : Char) : Spells c (escape c) := by
  by_cases hshort : c ∈ shortEscapes.map Prod.fst
  · obtain ⟨⟨c, letter⟩, hlisted, rfl⟩ := List.mem_map.mp hshort
    rw [escape_short _ hlisted]
    exact .short hlisted
  · have hlong : c ≠ '\x00' ∧ c ≠ '\t' ∧ c ≠ '\r' ∧ c ≠ '\n' ∧ c ≠ '"' ∧ c ≠ '\\' := by
      simpa [shortEscapes] using hshort
    have hescape : escape c
        = if isNumbered c then ['\\', 'u', '\x7b'] ++ Nat.toDigits 16 c.toNat ++ ['\x7d']
          else [c] := by
      simp [escape, hlong]
    rw [hescape]
    by_cases hnumbered : isNumbered c = true
    · rw [if_pos hnumbered]
      obtain ⟨hhex, hvalue, hleading⟩ := toDigits_hex c.toNat
      have hpos : 0 < c.toNat :=
        Nat.pos_of_ne_zero fun hzero => hlong.1 (Char.toNat_inj.mp hzero)
      exact .numbered hshort hhex (hleading hpos) hvalue
    · rw [if_neg hnumbered]
      exact .plain hshort

namespace Spells

variable {c d : Char} {text other rest others : List Char}

/-- No spelling starts with a quote. -/
theorem not_quote (hspells : Spells c text) : text ++ rest ≠ '"' :: others := by
  intro h
  cases hspells with
  | short listed => simp at h
  | numbered long hex leading value => simp at h
  | plain long =>
      have hquote : c = '"' := by simpa using (List.cons.inj h).1
      exact long (by rw [hquote]; decide)

/-- A number's digits end at its brace. -/
theorem digits_inj {digits more : List Char} (hhex : ∀ digit ∈ digits, digit ∈ hexDigits)
    (hmore : ∀ digit ∈ more, digit ∈ hexDigits)
    (h : digits ++ '\x7d' :: rest = more ++ '\x7d' :: others) : digits = more ∧ rest = others := by
  have hbrace : '\x7d' ∉ hexDigits := by decide
  induction digits generalizing more with
  | nil =>
      cases more with
      | nil => exact ⟨rfl, (List.cons.inj h).2⟩
      | cons digit more =>
          rw [← (List.cons.inj h).1] at hmore
          exact absurd (hmore _ List.mem_cons_self) hbrace
  | cons digit digits ih =>
      cases more with
      | nil =>
          rw [(List.cons.inj h).1] at hhex
          exact absurd (hhex _ List.mem_cons_self) hbrace
      | cons digit' more =>
          obtain ⟨hdigit, htail⟩ := List.cons.inj h
          obtain ⟨hsame, hrest⟩ := ih (fun one hone => hhex one (List.mem_cons_of_mem _ hone))
            (fun one hone => hmore one (List.mem_cons_of_mem _ hone)) htail
          exact ⟨by rw [hdigit, hsame], hrest⟩

/-- A spelling can be told from what follows it, and the character from its spelling. -/
theorem append_inj (hspells : Spells c text) (hother : Spells d other)
    (h : text ++ rest = other ++ others) : c = d ∧ rest = others := by
  cases hspells with
  | @short letter listed =>
      cases hother with
      | @short letter' listed' =>
          simp only [List.cons_append, List.nil_append, List.cons.injEq, true_and] at h
          exact ⟨shortEscapes_unique _ listed _ listed' h.1, h.2⟩
      | numbered long hex leading value =>
          simp only [List.cons_append, List.nil_append, List.cons.injEq, true_and] at h
          exact absurd h.1 (shortEscapes_letter _ listed)
      | plain long =>
          simp only [List.cons_append, List.nil_append, List.cons.injEq] at h
          exact absurd h.1.symm (ne_backslash long)
  | @numbered digits long hex leading value =>
      cases hother with
      | short listed' =>
          simp only [List.cons_append, List.nil_append, List.cons.injEq, true_and] at h
          exact absurd h.1.symm (shortEscapes_letter _ listed')
      | @numbered digits' long' hex' leading' value' =>
          simp only [List.cons_append, List.nil_append, List.append_assoc, List.cons.injEq,
            true_and] at h
          obtain ⟨hdigits, hrest⟩ := digits_inj hex hex' h
          have hnumber : c.toNat = d.toNat := by rw [← value, ← value', hdigits]
          exact ⟨Char.toNat_inj.mp hnumber, hrest⟩
      | plain long' =>
          simp only [List.cons_append, List.nil_append, List.cons.injEq] at h
          exact absurd h.1.symm (ne_backslash long')
  | plain long =>
      cases hother with
      | short listed' =>
          simp only [List.cons_append, List.nil_append, List.cons.injEq] at h
          exact absurd h.1 (ne_backslash long)
      | numbered long' hex' leading' value' =>
          simp only [List.cons_append, List.nil_append, List.cons.injEq] at h
          exact absurd h.1 (ne_backslash long)
      | plain long' => exact List.cons.inj h

end Spells

/-! ### Quoting a name -/

/-- How a name may be written in quotes. -/
def Quotes (name : String) (text : List Char) : Prop :=
  ∃ spellings, List.Forall₂ Spells name.toList spellings ∧
    text = '"' :: (spellings.flatten ++ ['"'])

theorem quotes_quoted (name : String) : Quotes name (quoted name).toList := by
  refine ⟨name.toList.map escape, ?_, ?_⟩
  · rw [List.forall₂_map_right_iff, List.forall₂_same]
    exact fun c _ => spells_escape c
  · rw [quoted, String.toList_ofList, quote, List.flatMap_def]

/-- Characters in spellings, up to the quote that is not part of one. -/
theorem spellings_inj {cs ds rest others : List Char} {spellings more : List (List Char)}
    (hspells : List.Forall₂ Spells cs spellings) (hmore : List.Forall₂ Spells ds more)
    (h : spellings.flatten ++ '"' :: rest = more.flatten ++ '"' :: others) :
    cs = ds ∧ rest = others := by
  induction hspells generalizing ds more with
  | nil =>
      cases hmore with
      | nil => exact ⟨rfl, (List.cons.inj h).2⟩
      | cons hone htail =>
          rw [List.flatten_cons, List.append_assoc] at h
          exact absurd h.symm hone.not_quote
  | cons hone htail ih =>
      cases hmore with
      | nil =>
          rw [List.flatten_cons, List.append_assoc] at h
          exact absurd h hone.not_quote
      | cons hone' htail' =>
          rw [List.flatten_cons, List.flatten_cons, List.append_assoc, List.append_assoc] at h
          obtain ⟨hchar, hbehind⟩ := hone.append_inj hone' h
          obtain ⟨hchars, hrest⟩ := ih htail' hbehind
          exact ⟨by rw [hchar, hchars], hrest⟩

/-- A quoted name can be told from what follows it, and the name from the quoted name. -/
theorem Quotes.append_inj {name name' : String} {text text' rest others : List Char}
    (hquotes : Quotes name text) (hquotes' : Quotes name' text')
    (h : text ++ rest = text' ++ others) : name = name' ∧ rest = others := by
  obtain ⟨spellings, hspells, rfl⟩ := hquotes
  obtain ⟨spellings', hspells', rfl⟩ := hquotes'
  simp only [List.cons_append, List.append_assoc, List.nil_append, List.cons.injEq, true_and] at h
  obtain ⟨hchars, hrest⟩ := spellings_inj hspells hspells' h
  exact ⟨String.toList_inj.mp hchars, hrest⟩

/-! ### Listing names -/

/-- How a list of names may be written: in brackets, a comma and a space between two. -/
def Lists (names : List String) (text : List Char) : Prop :=
  ∃ items, List.Forall₂ Quotes names items ∧ text = '[' :: ([',', ' '].intercalate items ++ [']'])

theorem lists_quotedList (names : List String) : Lists names (quotedList names).toList := by
  refine ⟨names.map fun name => (quoted name).toList, ?_, ?_⟩
  · rw [List.forall₂_map_right_iff, List.forall₂_same]
    exact fun name _ => quotes_quoted name
  · rw [quotedList, String.toList_ofList, quoteList]
    congr 2
    induction names with
    | nil => rfl
    | cons name rest ih =>
        cases rest with
        | nil => simp [quoteItems, quoted]
        | cons second rest =>
            rw [List.map_cons, List.map_cons, quoteItems, ← List.map_cons, ih]
            · simp [quoted, List.intercalate_cons_cons]
            · simp

/-- A quoted name has something in it. -/
theorem Quotes.not_bracket {name : String} {text rest others : List Char}
    (hquotes : Quotes name text) : text ++ rest ≠ ']' :: others := by
  obtain ⟨spellings, -, rfl⟩ := hquotes
  simp

/-- Behind a name in a list comes the bracket or another name. -/
def afterItem (rest : List Char) : List (List Char) → List Char
  | [] => ']' :: rest
  | item :: items => ',' :: ' ' :: ([',', ' '].intercalate (item :: items) ++ ']' :: rest)

theorem intercalate_item (item : List Char) (items : List (List Char)) (rest : List Char) :
    [',', ' '].intercalate (item :: items) ++ ']' :: rest = item ++ afterItem rest items := by
  cases items with
  | nil => simp [afterItem]
  | cons second items => simp [afterItem, List.intercalate_cons_cons]

/-- Quoted names with commas between them, up to the bracket. -/
theorem items_inj {names more : List String} {items others : List (List Char)}
    {rest behind : List Char} (hitems : List.Forall₂ Quotes names items)
    (hothers : List.Forall₂ Quotes more others)
    (h : [',', ' '].intercalate items ++ ']' :: rest
      = [',', ' '].intercalate others ++ ']' :: behind) : names = more ∧ rest = behind := by
  induction hitems generalizing more others with
  | nil =>
      cases hothers with
      | nil => exact ⟨rfl, (List.cons.inj h).2⟩
      | cons hone htail =>
          rw [intercalate_item] at h
          exact absurd h.symm hone.not_bracket
  | cons hone htail ih =>
      cases hothers with
      | nil =>
          rw [intercalate_item] at h
          exact absurd h hone.not_bracket
      | cons hone' htail' =>
          rw [intercalate_item, intercalate_item] at h
          obtain ⟨hname, hafter⟩ := hone.append_inj hone' h
          -- A bracket is not a comma, so either both lists go on or neither does.
          cases htail with
          | nil =>
              cases htail' with
              | nil => exact ⟨by rw [hname], (List.cons.inj hafter).2⟩
              | cons => simp [afterItem] at hafter
          | cons =>
              cases htail' with
              | nil => simp [afterItem] at hafter
              | cons hsecond' hmore' =>
                  obtain ⟨hnames, hrest⟩ := ih (.cons hsecond' hmore')
                    (List.cons.inj (List.cons.inj hafter).2).2
                  exact ⟨by rw [hname, hnames], hrest⟩

theorem Lists.append_inj {names names' : List String} {text text' rest others : List Char}
    (hlists : Lists names text) (hlists' : Lists names' text')
    (h : text ++ rest = text' ++ others) : names = names' ∧ rest = others := by
  obtain ⟨items, hitems, rfl⟩ := hlists
  obtain ⟨items', hitems', rfl⟩ := hlists'
  simp only [List.cons_append, List.append_assoc, List.nil_append, List.cons.injEq, true_and] at h
  exact items_inj hitems hitems' h

end Text

namespace LabelError

/-! ### Announcing an error -/

/-- How an error may be put into words. -/
inductive Says : LabelError → String → Prop
  | unsupported {name text : String} (quotes : Text.Quotes name text.toList) :
    Says (.unsupported name) ("metric partitioned with non-supported label " ++ text)
  | duplicate {name text : String} (quotes : Text.Quotes name text.toList) :
    Says (.duplicate name) ("metric partitioned by label " ++ text ++ " more than once")
  | notEvent {names : List String} {text : String} (lists : Text.Lists names text.toList) :
    Says (.notEvent names)
      ("metric must be partitioned by a single \"event\" label; found " ++ text)

theorem says_message (error : LabelError) : error.Says error.message := by
  cases error with
  | unsupported name => exact .unsupported (Text.quotes_quoted name)
  | duplicate name => exact .duplicate (Text.quotes_quoted name)
  | notEvent names => exact .notEvent (Text.lists_quotedList names)

/-- Texts that begin differently. -/
theorem opening_ne {opening opening' : String} (place : Nat)
    (hplace : place < opening.toList.length) (hplace' : place < opening'.toList.length)
    (hne : opening.toList[place]? ≠ opening'.toList[place]?) (text text' : String) :
    opening ++ text ≠ opening' ++ text' := by
  intro h
  have hlists : opening.toList ++ text.toList = opening'.toList ++ text'.toList := by
    rw [← String.toList_append, h, String.toList_append]
  apply hne
  rw [← List.getElem?_append_left hplace, hlists, List.getElem?_append_left hplace']

/-- Whatever is put into words can be told from the words. -/
theorem Says.unique {error other : LabelError} {text text' : String} (hread : error.Says text)
    (hother : other.Says text') (h : text = text') : error = other := by
  cases hread with
  | unsupported quotes =>
      cases hother with
      | unsupported quotes' =>
          have htail := congrArg String.toList ((String.append_right_inj _).mp h)
          obtain ⟨hname, -⟩ := quotes.append_inj quotes' (congrArg (· ++ []) htail)
          rw [hname]
      | duplicate quotes' =>
          rw [String.append_assoc] at h
          exact absurd h (opening_ne 19 (by decide) (by decide) (by decide) _ _)
      | notEvent lists' => exact absurd h (opening_ne 7 (by decide) (by decide) (by decide) _ _)
  | duplicate quotes =>
      rw [String.append_assoc] at h
      cases hother with
      | unsupported quotes' =>
          exact absurd h (opening_ne 19 (by decide) (by decide) (by decide) _ _)
      | duplicate quotes' =>
          rw [String.append_assoc] at h
          have htail := congrArg String.toList ((String.append_right_inj _).mp h)
          rw [String.toList_append, String.toList_append] at htail
          obtain ⟨hname, -⟩ := quotes.append_inj quotes' htail
          rw [hname]
      | notEvent lists' => exact absurd h (opening_ne 7 (by decide) (by decide) (by decide) _ _)
  | notEvent lists =>
      cases hother with
      | unsupported quotes' =>
          exact absurd h (opening_ne 7 (by decide) (by decide) (by decide) _ _)
      | duplicate quotes' =>
          rw [String.append_assoc] at h
          exact absurd h (opening_ne 7 (by decide) (by decide) (by decide) _ _)
      | notEvent lists' =>
          have htail := congrArg String.toList ((String.append_right_inj _).mp h)
          obtain ⟨hnames, -⟩ := lists.append_inj lists' (congrArg (· ++ []) htail)
          rw [hnames]

/-- **A message names one error.**  Every message is put together as told, and no text that
is put together so, whichever characters are written by number, can be read as saying two
different things; so the message determines the kind of error and the exact names. -/
theorem message_unambiguous :
    (∀ error : LabelError, error.Says error.message) ∧
    (∀ (error other : LabelError) (text : String), error.Says text → other.Says text →
      error = other) ∧
    ∀ error other : LabelError, error.message = other.message → error = other := by
  refine ⟨says_message, fun error other text hread hother => hread.unique hother rfl, ?_⟩
  intro error other hmessage
  exact (says_message error).unique (says_message other) hmessage

/-- Two names, the first of which pretends to be two. -/
example : (notEvent ["a\", \"b", "\x07\\"]).message
    = "metric must be partitioned by a single \"event\" label; found " ++
      "[\"a\\\", \\\"b\", \"\\u\x7b7\x7d\\\\\"]" := by decide

end LabelError

end Telemetry
