/-
Text laid out in a column.

A text can be cut to a greatest number of characters and padded to a least one.  The
cut comes first, so padding always fills what the cut left open.
-/
namespace Telemetry.Text

/-- Where a text stands in its column. -/
inductive Alignment
  | left
  | right
  /-- In the middle; if the padding is odd, the extra character is on the right. -/
  | center
deriving DecidableEq

/-- The layout of a column. -/
structure Column where
  /-- The least number of characters. -/
  width : Nat
  alignment : Alignment
  /-- The character that fills the column. -/
  fill : Char
  /-- The greatest number of characters of the text that are kept, if there is a limit. -/
  limit : Option Nat
deriving DecidableEq

namespace Column

/-- The number of fill characters before a text when `room` have to be placed. -/
def before (column : Column) (room : Nat) : Nat :=
  match column.alignment with
  | .left => 0
  | .right => room
  | .center => room / 2

/-- A text in the column. -/
def layout (column : Column) (text : String) : String :=
  let kept :=
    match column.limit with
    | none => text.toList
    | some limit => text.toList.take limit
  let room := column.width - kept.length
  let before := column.before room
  String.ofList
    (List.replicate before column.fill ++ kept ++ List.replicate (room - before) column.fill)

end Column

end Telemetry.Text
