/-
  WorkflowPolicy/Proofs/Decimal/Value.lean
  ========================================
  **What a floating-point number is worth.**  A finite number of the format is a rational
  number (`Binary64.value?`), and its integer part is that number without the fraction
  (`Binary64.truncate?_eq`): the floor of what is not negative, the ceiling of the rest.
-/
import Mathlib.Data.Rat.Floor
import WorkflowPolicy.Decimal.Binary64

namespace WorkflowPolicy

/-- A number without its fraction. -/
def towardZero (q : ℚ) : ℤ := if 0 ≤ q then ⌊q⌋ else ⌈q⌉

theorem towardZero_intCast (n : ℤ) : towardZero n = n := by
  unfold towardZero
  split
  · exact Int.floor_intCast n
  · exact Int.ceil_intCast n

theorem towardZero_of_nonneg {q : ℚ} (h : 0 ≤ q) : towardZero q = ⌊q⌋ := if_pos h

theorem towardZero_neg (q : ℚ) : towardZero (-q) = -towardZero q := by
  rcases lt_trichotomy q 0 with hneg | rfl | hpos
  · rw [towardZero_of_nonneg (neg_nonneg.mpr hneg.le), towardZero, if_neg (not_le.mpr hneg),
      Int.floor_neg]
  · rfl
  · rw [towardZero_of_nonneg hpos.le, towardZero, if_neg (not_le.mpr (neg_neg_iff_pos.mpr hpos)),
      Int.ceil_neg]

namespace Binary64

/-- The magnitude of a finite number. -/
def magnitude (m : ℕ) (e : ℤ) : ℚ := m * 2 ^ e

/-- The number that a finite one of the format is. -/
def value? : Binary64 → Option ℚ
  | .finite negative m e => some (if negative then -magnitude m e else magnitude m e)
  | _ => none

theorem magnitude_nonneg (m : ℕ) (e : ℤ) : 0 ≤ magnitude m e :=
  mul_nonneg (Nat.cast_nonneg m) (zpow_nonneg (by norm_num) e)

theorem towardZero_magnitude (m : ℕ) (e : ℤ) :
    towardZero (magnitude m e)
      = ((if 0 ≤ e then m * Nat.pow 2 e.toNat else m / Nat.pow 2 (-e).toNat : ℕ) : ℤ) := by
  rw [towardZero_of_nonneg (magnitude_nonneg m e), magnitude]
  by_cases he : 0 ≤ e
  · obtain ⟨k, rfl⟩ := Int.eq_ofNat_of_zero_le he
    rw [if_pos he, Int.toNat_natCast, zpow_natCast]
    exact_mod_cast Int.floor_natCast (R := ℚ) (m * 2 ^ k)
  · obtain ⟨k, hk⟩ := Int.eq_ofNat_of_zero_le (show 0 ≤ -e by omega)
    obtain rfl : e = -k := by omega
    rw [if_neg he, neg_neg, Int.toNat_natCast, zpow_neg, zpow_natCast, ← div_eq_mul_inv]
    have hfloor := Rat.floor_intCast_div_natCast m (2 ^ k)
    rw [Int.cast_natCast, Nat.cast_pow, Nat.cast_ofNat] at hfloor
    rw [hfloor]
    norm_cast

/-- **Cutting is exact.** -/
theorem truncate?_eq (x : Binary64) : x.truncate? = x.value?.map towardZero := by
  cases x with
  | nan => rfl
  | infinity s => rfl
  | finite s m e =>
    cases s with
    | false => exact congrArg some (towardZero_magnitude m e).symm
    | true =>
      rw [value?, if_pos rfl, Option.map_some, towardZero_neg, towardZero_magnitude]
      rfl

end Binary64

end WorkflowPolicy
