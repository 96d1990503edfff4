/-
A transport made from a function, as a person reads it.

Such a transport shows the name of the type of what it wraps and nothing of the value.
-/
import Telemetry.Text.Listed

namespace Telemetry

/-- A type of wrapped value. -/
inductive WrappedType
  | byte
  | real
  | unit
  | text
  | pair
  | triple
deriving DecidableEq

/-- The type's name. -/
def WrappedType.name : WrappedType → String
  | byte => "u8"
  | real => "f64"
  | unit => "()"
  | text => "&str"
  | pair => "(u8, bool)"
  | triple => "[i64; 3]"

/-- A transport made from a function that wraps a value of a type. -/
structure FunctionTransport where
  wrapped : WrappedType
deriving DecidableEq

/-- The transport as a person reads it. -/
def FunctionTransport.text (transport : FunctionTransport) (breadth : Text.Breadth) : String :=
  Text.enclosed breadth "RoundTripFn(" ")" [transport.wrapped.name]

end Telemetry
