/-
Header fields.

Field names do not depend on case and are kept in lower case.  A name may have
several values; they stay together, in the order they were given, at the place where
the name first appeared.
-/
import Telemetry.Table

namespace Telemetry.Http

/-- The header fields of a message. -/
structure Headers where
  fields : Table String (List String)

namespace Headers

/-- A message without header fields. -/
def none : Headers := ⟨.empty⟩

/-- The headers with one more value of a field. -/
def append (headers : Headers) (name value : String) : Headers :=
  let key := String.ofList (name.toList.map Char.toLower)
  ⟨headers.fields.alter key fun values => values.getD [] ++ [value]⟩

/-- The headers that consist of these fields. -/
def ofList (fields : List (String × String)) : Headers :=
  fields.foldl (fun headers (name, value) => headers.append name value) none

/-- Every field with each of its values. -/
def toList (headers : Headers) : List (String × String) :=
  headers.fields.entries.flatMap fun (name, values) => values.map fun value => (name, value)

end Headers

end Telemetry.Http
