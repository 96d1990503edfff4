/-
The arrangement of the exposition.

A line that holds line feeds is shown as several lines, one for each part between two
of them; a carriage return is a character like any other.  The lines that start with
`#` keep their places.  Between two of them the lines are put in order by groups, the
groups in the order of their lines compared character by character.  Where the last
type announced is that of a histogram, a group begins at each line of its sum and takes
all lines up to the next one; elsewhere every line is a group of its own.
-/
namespace Telemetry.Exposition

/-! ### Line breaks -/

/-- The lines that a text is broken into at its line feeds, at least one. -/
def breakLines : List Char → List (List Char)
  | [] => [[]]
  | '\n' :: rest => [] :: breakLines rest
  | c :: rest =>
    match breakLines rest with
    | [] => [[c]]
    | line :: others => (c :: line) :: others

/-- A line as it is shown, on one line for each of its parts between two breaks. -/
def shownLines (line : String) : List String :=
  (breakLines line.toList).map String.ofList

/-! ### Order -/

/-- The order of two lists that is decided by the first place in which they differ; a
list comes before any longer list that starts with it. -/
def lexicographic {α : Type} (order : α → α → Ordering) : List α → List α → Ordering
  | [], [] => .eq
  | [], _ :: _ => .lt
  | _ :: _, [] => .gt
  | a :: as, b :: bs => (order a b).then (lexicographic order as bs)

/-- The order of two characters by their numbers. -/
def characterOrder (a b : Char) : Ordering :=
  if a.toNat < b.toNat then .lt else if b.toNat < a.toNat then .gt else .eq

/-- The order of two lines. -/
def lineOrder (a b : String) : Ordering := lexicographic characterOrder a.toList b.toList

/-- The lines of groups of lines, the groups in order. -/
def sorted (groups : List (List String)) : List String :=
  (groups.mergeSort fun a b => (lexicographic lineOrder a b).isLE).flatten

/-! ### Groups -/

/-- Whether a line announces something instead of giving a value. -/
def isAnnouncement (line : String) : Bool := "#".toList.isPrefixOf line.toList

/-- What the lines of a metric's sums begin with, if the metric is announced to be a
histogram by these words, its name and its type. -/
def opening? (subject : List Char) : Option (List Char) :=
  let mark := " histogram".toList
  if mark.isSuffixOf subject then
    some (subject.take (subject.length - mark.length) ++ "_sum\x7b".toList)
  else none

/-- What the lines of sums begin with after one more line, where there are any: the last
type that was announced decides. -/
def openingAfter (opening : Option (List Char)) (line : String) : Option (List Char) :=
  let mark := "# TYPE ".toList
  if mark.isPrefixOf line.toList then opening? (line.toList.drop mark.length) else opening

/-- The groups of the lines between two announcements, if sums begin as told. -/
def groups (opening : Option (List Char)) (block : List String) : List (List String) :=
  match opening with
  | none => block.map ([·])
  | some first => block.splitBy fun _ next => !first.isPrefixOf next.toList

/-- Blocks of lines in their final order, announcements and other lines by turns. -/
def arrangedFrom (opening : Option (List Char)) : List (List String) → List String
  | [] => []
  | block :: blocks =>
    if block.any isAnnouncement then
      block ++ arrangedFrom (block.foldl openingAfter opening) blocks
    else sorted (groups opening block) ++ arrangedFrom opening blocks

/-- The lines in their final order. -/
def arranged (lines : List String) : List String :=
  arrangedFrom none (lines.splitBy fun a b => isAnnouncement a == isAnnouncement b)

end Telemetry.Exposition
