/-
The fewest decimal digits that still name one double.

A finite double other than zero stands for an interval of reals, those that round
to it: from half way to its neighbour below up to half way to its neighbour above,
the ends belonging to it exactly when its mantissa is even.  Its shortest decimal is
the multiple of the largest power of ten that lies in that interval; of two such
multiples the one nearer to the double, and of two equally near the even one.

Everything is exact arithmetic on natural numbers.  Only the two multiples on either
side of the double have to be looked at for each power: if any multiple lies in the
interval, so does one of those.
-/
import Telemetry.Decimal.Digits

namespace Telemetry.Decimal

/-- The size of a finite double: `mantissa * 2 ^ exponent`. -/
structure Magnitude where
  mantissa : Nat
  exponent : Int
  /-- The next double below is only half as far away as the next one above. -/
  closerBelow : Bool
deriving DecidableEq

/-- A decimal number: `coefficient * 10 ^ exponent`. -/
structure Scientific where
  coefficient : Nat
  exponent : Int
deriving DecidableEq

namespace Magnitude

/-- Reads the magnitude off the bits of a finite double, whatever its sign. -/
def ofBits (bits : Nat) : Magnitude :=
  let fraction : Nat := bits % pow2 52
  let biased : Nat := bits / pow2 52 % pow2 11
  if biased = 0 then ⟨fraction, -1074, false⟩
  else ⟨pow2 52 + fraction, (biased : Int) - 1075, fraction == 0 && biased != 1⟩

/-- The multiple of `10 ^ k` that rounds to `x` and is nearest to it, as a factor of
`10 ^ k`, if some multiple rounds to `x` at all. -/
def nearestMultiple? (x : Magnitude) (k : Int) : Option Nat :=
  -- Quarters of the last place of `x` and multiples of `10 ^ k`, on one scale.
  let quarter := pow2 (x.exponent - 2).toNat * pow10 (-k).toNat
  let unit := pow2 (2 - x.exponent).toNat * pow10 k.toNat
  let value := 4 * x.mantissa * quarter
  let low := (4 * x.mantissa - if x.closerBelow then 1 else 2) * quarter
  let high := (4 * x.mantissa + 2) * quarter
  let rounds (n : Nat) : Bool :=
    if x.mantissa % 2 = 0 then low ≤ n * unit && n * unit ≤ high
    else low < n * unit && n * unit < high
  let below := value / unit
  let above := below + 1
  match rounds below, rounds above with
  | false, false => none
  | true, false => some below
  | false, true => some above
  | true, true =>
    let left := value - below * unit
    let right := above * unit - value
    if left < right then some below
    else if right < left then some above
    else some (if below % 2 = 0 then below else above)

/-- Tries the powers of ten from `10 ^ k` downwards. -/
def shortestFrom (x : Magnitude) : Nat → Int → Scientific
  | 0, k => ⟨0, k⟩
  | tries + 1, k =>
    match x.nearestMultiple? k with
    | some n => ⟨n, k⟩
    | none => shortestFrom x tries (k - 1)

/-- The shortest decimal that rounds to `x`.  The search starts at a power of ten
above `x` and has room down to `10 ^ (-324)`, a multiple of which rounds to every
double, since no two doubles are closer than that. -/
def shortest (x : Magnitude) : Scientific :=
  let top := (x.exponent + x.mantissa.log2 + 2) * 30103 / 100000 + 1
  x.shortestFrom (top + 325).toNat top

end Magnitude

end Telemetry.Decimal
