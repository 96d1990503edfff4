/-
How a value made of parts is written on one line or over several.

Messages and log records show small compound values: a bracketed list, a braced set,
a record with one field, a wrapper around one item.  On one line the parts are
separated by a comma and a space; over several lines each part has a line of its own,
four spaces in and with a comma behind it.
-/
namespace Telemetry.Text

/-- Whether a compound value is written on one line or over several. -/
inductive Breadth
  | oneLine
  | manyLines
deriving DecidableEq

/-- Items separated by a comma and a space. -/
def commaSeparated (items : List String) : String := ", ".intercalate items

/-- Items between an opening and a closing mark. -/
def enclosed (breadth : Breadth) (opening closing : String) (items : List String) : String :=
  match breadth, items with
  | _, [] => opening ++ closing
  | .oneLine, items => opening ++ commaSeparated items ++ closing
  | .manyLines, items =>
    opening ++ "\n" ++ String.join (items.map fun item => "    " ++ item ++ ",\n") ++ closing

/-- A list in brackets. -/
def bracketed (items : List String) : String := enclosed .oneLine "[" "]" items

/-- A set in braces. -/
def braced (breadth : Breadth) (items : List String) : String :=
  enclosed breadth "\x7b" "\x7d" items

/-- A record of one field. -/
def record (name field value : String) : String :=
  name ++ " \x7b " ++ field ++ ": " ++ value ++ " \x7d"

end Telemetry.Text
