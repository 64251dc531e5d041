import Mathlib.Algebra.Order.Field.Rat
import Mathlib.Tactic.Positivity
import TokenFilter.Decimal.Basic

set_option autoImplicit false

namespace TokenFilter.Decimal

variable (a b d : Decimal)

def magnitude : ℚ := d.coefficient / 10 ^ d.scale

def number : ℚ := d.signed / 10 ^ d.scale

theorem number_negative (negative : d.negative = true) : d.number = -d.magnitude := by
  rw [number, signed, if_pos negative, Int.cast_neg, Int.cast_natCast, neg_div]
  rfl

theorem number_positive (positive : d.negative = false) : d.number = d.magnitude := by
  rw [number, signed, positive]
  rfl

theorem number_zero (zero : d.coefficient = 0) : d.number = 0 := by
  rw [number, signed, zero]
  simp

theorem magnitude_pos (some : d.coefficient ≠ 0) : 0 < d.magnitude := by
  have coefficient : (0 : ℚ) < d.coefficient := Nat.cast_pos.mpr (Nat.pos_of_ne_zero some)
  exact div_pos coefficient (by positivity)

theorem number_lt_zero (negative : d.negative = true) (some : d.coefficient ≠ 0) : d.number < 0 := by
  rw [d.number_negative negative]
  exact neg_lt_zero.mpr (d.magnitude_pos some)

theorem zero_lt_number (positive : d.negative = false) (some : d.coefficient ≠ 0) : 0 < d.number := by
  rw [d.number_positive positive]
  exact d.magnitude_pos some

theorem compare_quotients (m n scale : Nat) :
    compare ((m : ℚ) / 10 ^ scale) ((n : ℚ) / 10 ^ scale) = compare m n := by
  have increasing : StrictMono fun n : ℕ => (n : ℚ) / 10 ^ scale := by
    intro i j less
    exact div_lt_div_of_pos_right (Nat.cast_lt.mpr less) (by positivity)
  rw [← cmp_eq_compare, ← cmp_eq_compare]
  exact increasing.cmp_map_eq m n

theorem raised_magnitude (digits : Nat) :
    ((d.coefficient * 10 ^ digits : Nat) : ℚ) / 10 ^ (d.scale + digits) = d.magnitude := by
  have unit : (10 : ℚ) ^ digits ≠ 0 := by positivity
  rw [magnitude, pow_add, Nat.cast_mul, Nat.cast_pow, Nat.cast_ofNat, mul_div_mul_right _ _ unit]

-- What cannot be raised is greater than every coefficient.
theorem compare_raised (digits : Nat) (fits : b.scale = a.scale + digits) :
    (match raise? a.coefficient digits with
      | some raised => compare raised b.coefficient
      | none => .gt) = compare a.magnitude b.magnitude := by
  rw [← a.raised_magnitude digits, ← fits, magnitude, compare_quotients, raise?]
  by_cases below : a.coefficient * 10 ^ digits < limit
  · rw [if_pos below]
  · rw [if_neg below]
    have limited := b.coefficient_lt
    exact (Nat.compare_eq_gt.mpr (by omega)).symm

theorem compare_magnitude : a.compareMagnitude b = compare a.magnitude b.magnitude := by
  unfold compareMagnitude
  by_cases lesser : a.scale ≤ b.scale
  · rw [if_pos lesser]
    exact compare_raised a b _ (by omega)
  · have turned := compare_raised b a (a.scale - b.scale) (by omega)
    rw [if_neg lesser, Std.OrientedOrd.eq_swap (a := a.magnitude), ← turned]
    cases raise? b.coefficient (a.scale - b.scale) with
    | none => rfl
    | some raised => exact Std.OrientedOrd.eq_swap

theorem compare_number : a.compare b = compare a.number b.number := by
  unfold Decimal.compare
  by_cases zero' : b.coefficient = 0
  · rw [if_pos zero', b.number_zero zero']
    by_cases zero : a.coefficient = 0
    · rw [if_pos zero, a.number_zero zero]
      exact (compare_eq_iff_eq.mpr rfl).symm
    rw [if_neg zero]
    cases negative : a.negative with
    | true => exact (compare_lt_iff_lt.mpr (a.number_lt_zero negative zero)).symm
    | false => exact (compare_gt_iff_gt.mpr (a.zero_lt_number negative zero)).symm
  rw [if_neg zero']
  by_cases zero : a.coefficient = 0
  · rw [if_pos zero, a.number_zero zero]
    cases negative' : b.negative with
    | true => exact (compare_gt_iff_gt.mpr (b.number_lt_zero negative' zero')).symm
    | false => exact (compare_lt_iff_lt.mpr (b.zero_lt_number negative' zero')).symm
  rw [if_neg zero]
  -- Neither is zero, so that unlike signs decide and like ones leave it to the magnitudes.
  cases negative : a.negative <;> cases negative' : b.negative
  · rw [a.number_positive negative, b.number_positive negative', ← compare_magnitude]
    rfl
  · have more := (b.number_lt_zero negative' zero').trans (a.zero_lt_number negative zero)
    exact (compare_gt_iff_gt.mpr more).symm
  · have less := (a.number_lt_zero negative zero).trans (b.zero_lt_number negative' zero')
    exact (compare_lt_iff_lt.mpr less).symm
  · have decreasing : StrictAnti fun x : ℚ => -x := fun x y less => neg_lt_neg less
    have turned := decreasing.cmp_map_eq a.magnitude b.magnitude
    rw [cmp_eq_compare, cmp_eq_compare] at turned
    rw [a.number_negative negative, b.number_negative negative', turned, ← compare_magnitude]
    rfl

theorem compare_swap : (a.compare b).swap = b.compare a := by
  rw [compare_number, compare_number, ← Std.OrientedOrd.eq_swap]

end TokenFilter.Decimal
