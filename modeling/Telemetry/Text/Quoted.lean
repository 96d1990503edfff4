/-
Quoted names.

A name that appears in a message stands between double quotes, and whatever could be
mistaken for something else is escaped: the quote and the backslash, the control
characters, and every character that has no shape of its own or would attach itself
to its neighbour.  Six of these have a one-letter escape; the rest are written by
their number in hexadecimal, in braces and without leading zeros.  A list of names is
the quoted names in brackets, with a comma and a space between two of them.
-/
import Telemetry.Text.Invisible
import Telemetry.Text.Extending

namespace Telemetry.Text

/-- Whether a character without a one-letter escape is written by its number. -/
def isNumbered (c : Char) : Bool :=
  c.toNat < 0x20 || c.toNat == 0x7F ||
    (0x80 ≤ c.toNat && (isInvisible c || isExtending c))

/-- A character as it stands between quotes. -/
def escape (c : Char) : List Char :=
  if c = '\x00' then ['\\', '0']
  else if c = '\t' then ['\\', 't']
  else if c = '\r' then ['\\', 'r']
  else if c = '\n' then ['\\', 'n']
  else if c = '"' then ['\\', '"']
  else if c = '\\' then ['\\', '\\']
  else if isNumbered c then ['\\', 'u', '\x7b'] ++ Nat.toDigits 16 c.toNat ++ ['\x7d']
  else [c]

/-- The characters of a name in quotes. -/
def quote (name : List Char) : List Char :=
  '"' :: (name.flatMap escape ++ ['"'])

/-- The characters between the brackets of a list of names. -/
def quoteItems : List (List Char) → List Char
  | [] => []
  | [name] => quote name
  | name :: rest => quote name ++ ',' :: ' ' :: quoteItems rest

/-- The characters of a list of names. -/
def quoteList (names : List (List Char)) : List Char :=
  '[' :: (quoteItems names ++ [']'])

/-- A name in quotes. -/
def quoted (name : String) : String := String.ofList (quote name.toList)

/-- A list of names, each in quotes. -/
def quotedList (names : List String) : String :=
  String.ofList (quoteList (names.map String.toList))

end Telemetry.Text
