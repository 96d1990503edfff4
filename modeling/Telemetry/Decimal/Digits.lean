/-
Decimal digits of a natural number, as characters, and the powers that place them.

Most significant digit first throughout.  The number zero has one digit.
-/
namespace Telemetry.Decimal

/-- A power of two. -/
def pow2 (n : Nat) : Nat := Nat.pow 2 n

/-- A power of ten. -/
def pow10 (n : Nat) : Nat := Nat.pow 10 n

/-- The decimal digits of `n`. -/
def digits (n : Nat) : List Char := Nat.toDigits 10 n

/-- The digits of `n` behind as many zeros as it takes to fill `width` places, and
no digit at all for no places. -/
def padded : Nat → Nat → List Char
  | 0, _ => []
  | width + 1, n =>
    let ds := digits n
    List.replicate (width + 1 - ds.length) '0' ++ ds

/-- The digits without the zeros they end in. -/
def dropTrailingZeros (ds : List Char) : List Char :=
  (ds.reverse.dropWhile (· == '0')).reverse

end Telemetry.Decimal
