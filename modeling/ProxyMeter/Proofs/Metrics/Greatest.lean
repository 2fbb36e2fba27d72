import Mathlib.Algebra.Group.Nat.Defs
import ProxyMeter.Metrics.Basic

/-!
# What the last bucket takes

The bound of the last bucket is the greatest finite number, not infinity. So it takes every finite
observation, and none that is infinite or no number, save a negative infinity.

A floating-point number is opened into a sign, a mantissa and an exponent; the largest mantissa has
53 bits, and the largest exponent is 971.
-/

namespace ProxyMeter.Metrics

open Float.Model UnpackedFloat

/-- A number that is less than infinity, and is a number. -/
def BelowInfinity (x : Float) : Prop := x.isNaN = false ∧ (x.isInf = true → x < 0)

instance (x : Float) : Decidable (BelowInfinity x) :=
  inferInstanceAs (Decidable (x.isNaN = false ∧ (x.isInf = true → x < 0)))

theorem belowInfinity_of_isFinite {x : Float} (finite : x.isFinite = true) : BelowInfinity x := by
  have opened : x.toModel.unpack.isFinite = true := finite
  show x.toModel.unpack.isNaN = false ∧ (x.toModel.unpack.isInf = true → _)
  cases unpacked : x.toModel.unpack with
  | infinity | notANumber =>
    rw [unpacked] at opened
    cases opened
  | zero | finite => exact ⟨rfl, nofun⟩

section Unpacked

variable {u v : UnpackedFloat}

/-- A finite number has a mantissa of 53 bits at most, and an exponent of at most 971. -/
theorem unpack_bounds {b : BitVec Format.binary64.numBits} {s : Sign} {m : Nat} {e : Int}
    {positive : 0 < m} (h : UnpackedFloat.unpack Format.binary64 b = .finite s m e positive) :
    m ≤ 2 ^ 53 - 1 ∧ e ≤ 971 := by
  have mantissa : (unpackMantissa b).toNat < 2 ^ 52 := (unpackMantissa b).isLt
  have exponent : (unpackExponent b).toNat < 2 ^ 11 := (unpackExponent b).isLt
  -- The definition with its constants: the greatest exponent is 2046 - 1075.
  replace h : (if unpackExponent b = -1#11 then
      if unpackMantissa b = 0#52 then infinity (.ofBitVec (unpackSign b)) else notANumber
    else if unpackExponent b = 0#11 then
      if _ : unpackMantissa b = 0#52 then .zero (.ofBitVec (unpackSign b))
      else finite (.ofBitVec (unpackSign b)) (unpackMantissa b).toNat
        ((unpackExponent b).toNat - 1075 + 1) _
    else finite (.ofBitVec (unpackSign b)) (1#1 ++ unpackMantissa b).toNat
      ((unpackExponent b).toNat - 1075) _) = .finite s m e positive := h
  by_cases special : unpackExponent b = -1#11
  · rw [if_pos special] at h
    by_cases infinite : unpackMantissa b = 0#52
    · rw [if_pos infinite] at h
      cases h
    · rw [if_neg infinite] at h
      cases h
  · have below : (unpackExponent b).toNat ≠ 2 ^ 11 - 1 := fun same =>
      special (BitVec.eq_of_toNat_eq same)
    rw [if_neg special] at h
    by_cases subnormal : unpackExponent b = 0#11
    · rw [if_pos subnormal] at h
      by_cases zero : unpackMantissa b = 0#52
      · rw [dif_pos zero] at h
        cases h
      · rw [dif_neg zero] at h
        cases h
        rw [subnormal]
        exact ⟨by omega, by decide⟩
    · -- The leading bit of the mantissa is not among the bits that are kept.
      rw [if_neg subnormal] at h
      cases h
      refine ⟨?_, by omega⟩
      rw [BitVec.toNat_append]
      exact Nat.le_pred_of_lt (Nat.or_lt_two_pow (show 2 ^ 52 < 2 ^ 53 by decide) (by omega))

/-- Among numbers with such bounds, those below infinity are at most the one that reaches both. -/
theorem unpacked_le_iff
    (bounds : ∀ {s m e positive}, u = .finite s m e positive → m ≤ 2 ^ 53 - 1 ∧ e ≤ 971) :
    u.le (.finite .positive (2 ^ 53 - 1) 971 (by decide)) = true ↔
      u.isNaN = false ∧ (u.isInf = true → u.lt (.zero .positive) = true) := by
  cases u with
  | infinity s => cases s <;> decide
  | notANumber => decide
  | zero s => cases s <;> decide
  | finite s m e positive =>
    refine iff_of_true ?_ ⟨rfl, nofun⟩
    cases s with
    | negative => rfl
    | positive =>
      obtain ⟨mantissa, exponent⟩ := bounds rfl
      show ((compare e 971).then (compare m (2 ^ 53 - 1))).isLE = true
      rw [Ordering.isLE_then_iff_and, Int.isLE_compare, Nat.isLE_compare, Int.compare_eq_lt]
      omega

theorem unpacked_of_le (below : v.isNaN = false ∧ (v.isInf = true → v.lt (.zero .positive) = true))
    (le : u.le v = true) :
    u.isNaN = false ∧ (u.isInf = true → u.lt (.zero .positive) = true) := by
  match u, v, below, le with
  | .infinity .negative, _, _, _ => exact ⟨rfl, fun _ => rfl⟩
  | .infinity .positive, .infinity .positive, ⟨_, negative⟩, _ => cases negative rfl
  | .zero _, _, _, _ | .finite .., _, _, _ => exact ⟨rfl, nofun⟩

end Unpacked

theorem lt_zero_iff {x : Float} : x < 0 ↔ x.toModel.unpack.lt (.zero .positive) = true :=
  decide_eq_true_iff

/-- The last bucket takes what is below infinity. -/
theorem le_greatest_iff {x : Float} : x ≤ greatest ↔ BelowInfinity x := by
  have unpacked : x ≤ greatest ↔
      x.toModel.unpack.le (.finite .positive (2 ^ 53 - 1) 971 (by decide)) = true :=
    decide_eq_true_iff
  rw [unpacked, BelowInfinity, lt_zero_iff]
  exact unpacked_le_iff unpack_bounds

/-- What is at most a number below infinity is below infinity itself. -/
theorem BelowInfinity.of_le {x y : Float} (below : BelowInfinity y) (le : x ≤ y) :
    BelowInfinity x := by
  have unpacked : x.toModel.unpack.le y.toModel.unpack = true := decide_eq_true_iff.mp le
  rw [BelowInfinity, lt_zero_iff] at below ⊢
  exact unpacked_of_le below unpacked

example : BelowInfinity greatest ∧ BelowInfinity (-1 / 0) ∧ ¬ BelowInfinity (1 / 0) ∧
    ¬ BelowInfinity (0 / 0) := by decide

end ProxyMeter.Metrics
