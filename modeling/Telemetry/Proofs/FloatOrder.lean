/-
How numbers in double precision are ordered.

A double is not a number, or it has a place in a linear order: infinities outermost, then
by sign, exponent and mantissa, the last two read backwards below zero.  Comparing doubles
is comparing places, so `≤` is transitive, and every finite double is at most the largest.
-/
import Mathlib.Algebra.Ring.Int.Defs
import Mathlib.Algebra.Ring.Nat
import Mathlib.Data.Prod.Lex
import Telemetry.Metric.Histogram

namespace Telemetry.FloatOrder

open Float.Model (UnpackedFloat)
open Float.Model.UnpackedFloat (unpack)

/-- The place of a double: its kind, its exponent and its mantissa. -/
def place : UnpackedFloat → Option (Int ×ₗ Int ×ₗ Int)
  | .notANumber => none
  | .infinity .negative => some (toLex (-2, toLex (0, 0)))
  | .finite .negative mantissa exponent _ => some (toLex (-1, toLex (-exponent, -(mantissa : Int))))
  | .zero _ => some (toLex (0, toLex (0, 0)))
  | .finite .positive mantissa exponent _ => some (toLex (1, toLex (exponent, (mantissa : Int))))
  | .infinity .positive => some (toLex (2, toLex (0, 0)))

/-! ### Comparing is comparing places -/

theorem compare_neg (i j : Int) : compare (-i) (-j) = (compare i j).swap := by
  rcases lt_trichotomy i j with hlt | heq | hgt
  · rw [compare_lt_iff_lt.mpr hlt, compare_gt_iff_gt.mpr (Int.neg_lt_neg hlt)]
    rfl
  · rw [heq, compare_eq_iff_eq.mpr rfl, compare_eq_iff_eq.mpr rfl]
    rfl
  · rw [compare_gt_iff_gt.mpr hgt, compare_lt_iff_lt.mpr (Int.neg_lt_neg hgt)]
    rfl

theorem compare_cast (m n : Nat) : compare (m : Int) (n : Int) = compare m n := by
  rcases lt_trichotomy m n with hlt | heq | hgt
  · rw [compare_lt_iff_lt.mpr hlt, compare_lt_iff_lt.mpr (Int.ofNat_lt.mpr hlt)]
  · rw [heq, compare_eq_iff_eq.mpr rfl, compare_eq_iff_eq.mpr rfl]
  · rw [compare_gt_iff_gt.mpr hgt, compare_gt_iff_gt.mpr (Int.ofNat_lt.mpr hgt)]

theorem compare_place (a b : UnpackedFloat) :
    a.compare b = (place a).bind fun x => (place b).map (compare x) := by
  cases a with
  | notANumber => rfl
  | infinity sign =>
      cases b with
      | notANumber => cases sign <;> rfl
      | infinity other => cases sign <;> cases other <;> rfl
      | zero other => cases sign <;> rfl
      | finite other n f hn => cases sign <;> cases other <;> rfl
  | zero sign =>
      cases b with
      | notANumber => rfl
      | infinity other => cases other <;> rfl
      | zero other => rfl
      | finite other n f hn => cases other <;> rfl
  | finite sign m e hm =>
      cases b with
      | notANumber => cases sign <;> rfl
      | infinity other => cases sign <;> cases other <;> rfl
      | zero other => cases sign <;> rfl
      | finite other n f hn =>
          cases sign <;> cases other
          case negative.negative =>
            show some _ = some ((compare (-e) (-f)).then (compare (-(m : Int)) (-(n : Int))))
            rw [compare_neg, compare_neg, compare_cast, Ordering.swap_then]
          case positive.positive =>
            show some _ = some ((compare e f).then (compare (m : Int) (n : Int)))
            rw [compare_cast]
          all_goals rfl

/-- The place of a double as it is kept. -/
def placeOf (a : Float) : Option (Int ×ₗ Int ×ₗ Int) := place a.toModel.unpack

theorem le_iff (a b : Float) :
    a ≤ b ↔ ∃ x y, placeOf a = some x ∧ placeOf b = some y ∧ x ≤ y := by
  have hle : a ≤ b ↔ (a.toModel.unpack.compare b.toModel.unpack).any Ordering.isLE = true := by
    rw [show (a ≤ b) = (Float.le a b = true) from rfl, Float.le, decide_eq_true_iff]
    exact Iff.rfl
  rw [hle, compare_place, placeOf, placeOf]
  cases place a.toModel.unpack <;> cases place b.toModel.unpack <;>
    simp [Ordering.isLE_iff_ne_gt, compare_le_iff_le]

theorem lt_iff (a b : Float) :
    a < b ↔ ∃ x y, placeOf a = some x ∧ placeOf b = some y ∧ x < y := by
  have hlt : a < b ↔ (a.toModel.unpack.compare b.toModel.unpack == some .lt) = true := by
    rw [show (a < b) = (Float.lt a b = true) from rfl, Float.lt, decide_eq_true_iff]
    exact Iff.rfl
  rw [hlt, compare_place, placeOf, placeOf]
  cases place a.toModel.unpack <;> cases place b.toModel.unpack <;> simp [compare_lt_iff_lt]

theorem le_of_lt {a b : Float} (h : a < b) : a ≤ b := by
  obtain ⟨x, y, hx, hy, hxy⟩ := (lt_iff a b).mp h
  exact (le_iff a b).mpr ⟨x, y, hx, hy, hxy.le⟩

theorem le_trans {a b c : Float} (hab : a ≤ b) (hbc : b ≤ c) : a ≤ c := by
  obtain ⟨x, y, hx, hy, hxy⟩ := (le_iff a b).mp hab
  obtain ⟨y', z, hy', hz, hyz⟩ := (le_iff b c).mp hbc
  rw [hy] at hy'
  cases hy'
  exact (le_iff a c).mpr ⟨x, z, hx, hz, hxy.trans hyz⟩

/-! ### The largest finite number -/

/-- What double precision has room for. -/
theorem unpack_bounded {bits : BitVec Float.Model.Format.binary64.numBits}
    {sign : UnpackedFloat.Sign} {mantissa : Nat} {exponent : Int} {hpos : 0 < mantissa}
    (h : unpack .binary64 bits = .finite sign mantissa exponent hpos) :
    exponent ≤ 971 ∧ mantissa < 2 ^ 53 := by
  have hmantissa : (UnpackedFloat.unpackMantissa bits).toNat < 2 ^ 52 :=
    (UnpackedFloat.unpackMantissa bits).isLt
  have hexponent : (UnpackedFloat.unpackExponent bits).toNat < 2048 :=
    (UnpackedFloat.unpackExponent bits).isLt
  have hbias : Float.Model.Format.binary64.exponentBias = 1023 := rfl
  unfold unpack at h
  dsimp only at h
  by_cases hones : UnpackedFloat.unpackExponent bits = -1#_
  · -- All ones mark the infinities and what is not a number.
    rw [if_pos hones] at h
    by_cases hnone : UnpackedFloat.unpackMantissa bits = 0#_
    · rw [if_pos hnone] at h
      cases h
    · rw [if_neg hnone] at h
      cases h
  rw [if_neg hones] at h
  by_cases hzeros : UnpackedFloat.unpackExponent bits = 0#_
  · rw [if_pos hzeros] at h
    by_cases hnone : UnpackedFloat.unpackMantissa bits = 0#_
    · rw [dif_pos hnone] at h
      cases h
    · rw [dif_neg hnone] at h
      cases h
      refine ⟨by rw [hzeros]; decide, ?_⟩
      omega
  · rw [if_neg hzeros] at h
    cases h
    refine ⟨?_, BitVec.isLt _⟩
    have htop : (UnpackedFloat.unpackExponent bits).toNat ≠ 2047 :=
      fun h => hones (BitVec.eq_of_toNat_eq h)
    rw [hbias]
    push_cast
    omega

theorem placeOf_lastBound :
    placeOf Bucket.lastBound = some (toLex (1, toLex (971, 2 ^ 53 - 1))) := rfl

/-- Every finite double is at most the largest. -/
theorem le_lastBound {a : Float} (hfinite : a.isFinite = true) : a ≤ Bucket.lastBound := by
  have hunpacked : a.toModel.unpack.isFinite = true := hfinite
  have hbelow : ∀ x, placeOf a = some x → x ≤ toLex (1, toLex (971, 2 ^ 53 - 1)) →
      a ≤ Bucket.lastBound :=
    fun x hx hle => (le_iff _ _).mpr ⟨x, _, hx, placeOf_lastBound, hle⟩
  cases hnumber : a.toModel.unpack with
  | notANumber =>
      rw [hnumber] at hunpacked
      cases hunpacked
  | infinity sign =>
      rw [hnumber] at hunpacked
      cases hunpacked
  | zero sign =>
      refine hbelow _ (by rw [placeOf, hnumber]; rfl) ?_
      exact Prod.Lex.toLex_le_toLex.mpr (.inl (show (0 : Int) < 1 by decide))
  | finite sign mantissa exponent hpos =>
      obtain ⟨hexponent, hmantissa⟩ := unpack_bounded hnumber
      cases sign with
      | negative =>
          refine hbelow _ (by rw [placeOf, hnumber]; rfl) ?_
          exact Prod.Lex.toLex_le_toLex.mpr (.inl (show (-1 : Int) < 1 by decide))
      | positive =>
          refine hbelow _ (by rw [placeOf, hnumber]; rfl) ?_
          refine Prod.Lex.toLex_le_toLex.mpr (.inr ⟨rfl, Prod.Lex.toLex_le_toLex.mpr ?_⟩)
          show exponent < 971 ∨ exponent = 971 ∧ (mantissa : Int) ≤ 2 ^ 53 - 1
          omega

end Telemetry.FloatOrder
