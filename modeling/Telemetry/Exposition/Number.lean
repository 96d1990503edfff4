/-
How the exposition writes a double.

The digits are the shortest that read back.  Where the point goes depends on the
size alone: from a millionth up to, and not including, a thousand trillion million
the number is written out with at least one decimal; outside that range it is one
digit, the rest behind a point, and a bare exponent.
-/
import Telemetry.Decimal.Shortest

namespace Telemetry.Exposition

/-- The choices of the number format that are not forced by the digits. -/
structure NumberFormat where
  /-- Numbers of size `10 ^ positionalFrom` and above are written out. -/
  positionalFrom : Int
  /-- Numbers of size `10 ^ positionalTo` and above no longer are. -/
  positionalTo : Int
  notANumber : String
  infinity : String

/-- The exposition's number format. -/
def numberFormat : NumberFormat := ⟨-6, 21, "NaN", "inf"⟩

namespace NumberFormat

/-- A decimal written out in full, with at least one digit on each side of the point. -/
def positional (d : Decimal.Scientific) : List Char :=
  let ds := Decimal.digits d.coefficient
  if 0 ≤ d.exponent then ds ++ List.replicate d.exponent.toNat '0' ++ ['.', '0']
  else
    let places := (-d.exponent).toNat
    let ds := List.replicate (places + 1 - ds.length) '0' ++ ds
    ds.take (ds.length - places) ++ '.' :: ds.drop (ds.length - places)

/-- A decimal as one digit, the remaining ones behind a point, and an exponent. -/
def scientific (d : Decimal.Scientific) : List Char :=
  let ds := Decimal.digits d.coefficient
  let exponent := d.exponent + (ds.length - 1 : Nat)
  let mantissa :=
    match ds with
    | first :: second :: rest => first :: '.' :: second :: rest
    | short => short
  let sign := if exponent < 0 then ['-'] else []
  mantissa ++ 'e' :: sign ++ Decimal.digits exponent.natAbs

/-- A finite magnitude in this format. -/
def magnitude (format : NumberFormat) (x : Decimal.Magnitude) : List Char :=
  if x.mantissa = 0 then ['0', '.', '0']
  else
    let d := x.shortest
    -- The first digit stands for a multiple of `10 ^ size`.
    let size := d.exponent + ((Decimal.digits d.coefficient).length - 1 : Nat)
    if format.positionalFrom ≤ size ∧ size < format.positionalTo then positional d
    else scientific d

/-- A double in this format. -/
def write (format : NumberFormat) (x : Float) : String :=
  let bits := x.toBits.toNat
  let sign := if bits / Decimal.pow2 63 = 0 then "" else "-"
  if bits / Decimal.pow2 52 % Decimal.pow2 11 = 2047 then
    if bits % Decimal.pow2 52 = 0 then sign ++ format.infinity else format.notANumber
  else sign ++ String.ofList (format.magnitude (.ofBits bits))

end NumberFormat

end Telemetry.Exposition
