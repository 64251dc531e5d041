import TokenFilter.Proofs.Coherence
import TokenFilter.Proofs.Resemblance

set_option autoImplicit false

namespace TokenFilter

def Value.exact? : Value → Option ℚ
  | .int n => some n.toInt
  | .uint n => some n.toNat
  | .decimal d => some d.number
  | _ => none

def Policy.AtMost (policy : Policy) (a b : Value) : Prop := (compareOrder policy a b).any Ordering.isLE = true

namespace Decimal

theorem int64_signed (n : Int64) : (ofInt64 n).signed = n.toInt := by
  change (if decide (n.toInt < 0) = true then -(n.toInt.natAbs : Int) else n.toInt.natAbs) = n.toInt
  split
  · rename_i below
    rw [decide_eq_true_iff] at below
    omega
  · rename_i above
    rw [decide_eq_true_iff] at above
    omega

theorem int64_number (n : Int64) : (ofInt64 n).number = n.toInt := by
  rw [number, int64_signed, ofInt64, pow_zero, div_one]

theorem uint64_number (n : UInt64) : (ofUInt64 n).number = n.toNat := by
  rw [number, ofUInt64, pow_zero, div_one]
  rfl

end Decimal

theorem exact_numeric (value : Value) (x : ℚ) (exactly : value.exact? = some x) :
    ∃ d : Decimal, value.numeric? = some (.exact d) ∧ d.number = x := by
  cases value with
  | int n =>
      cases exactly
      exact ⟨.ofInt64 n, rfl, Decimal.int64_number n⟩
  | uint n =>
      cases exactly
      exact ⟨.ofUInt64 n, rfl, Decimal.uint64_number n⟩
  | decimal d =>
      cases exactly
      exact ⟨d, rfl, rfl⟩
  | _ => cases exactly

section Exact

variable {a b c : Value} {x y z : ℚ}

theorem exact_order (first : a.exact? = some x) (second : b.exact? = some y) :
    compareOrder .numericWiden a b = some (compare x y) := by
  obtain ⟨d, left, rfl⟩ := exact_numeric a x first
  obtain ⟨e, right, rfl⟩ := exact_numeric b y second
  rw [numeric_order, Value.compareNumeric, left, right, ← Decimal.compare_number]

theorem exact_at_most (first : a.exact? = some x) (second : b.exact? = some y) :
    Policy.numericWiden.AtMost a b ↔ x ≤ y := by
  rw [Policy.AtMost, exact_order first second, Option.any_some, Ordering.isLE_iff_ne_gt]
  exact compare_le_iff_le

-- Whole numbers and decimals compare as the numbers that they stand for, always and exactly, so that they are ordered
-- in one line in which those that are equal are the ones of one number.
theorem exact_comparison (first : a.exact? = some x) (second : b.exact? = some y) (third : c.exact? = some z) :
    compareOrder .numericWiden a b = some (compare x y) ∧
    compareEq .numericWiden a b = some (decide (x = y)) ∧
    Policy.numericWiden.AtMost a a ∧
    (Policy.numericWiden.AtMost a b ∨ Policy.numericWiden.AtMost b a) ∧
    (Policy.numericWiden.AtMost a b → Policy.numericWiden.AtMost b c → Policy.numericWiden.AtMost a c) ∧
    (Policy.numericWiden.AtMost a b ∧ Policy.numericWiden.AtMost b a ↔ x = y) := by
  have order := exact_order first second
  rw [exact_at_most first first, exact_at_most first second, exact_at_most second first, exact_at_most second third,
    exact_at_most first third]
  refine ⟨order, ?_, le_refl x, le_total x y, le_trans, le_antisymm_iff.symm⟩
  rw [numeric_equality, order, Option.map_some]
  congr 1
  rw [Bool.eq_iff_iff, beq_iff_eq, decide_eq_true_iff, compare_eq_iff_eq]

end Exact

theorem exact_comparison_of_extremes :
    let a : Value := .uint 18446744073709551615
    let b : Value := .decimal ⟨false, 18446744073709551615000000000, 9, by decide, by decide⟩
    let c : Value := .int (-9223372036854775808)
    a.exact? = some 18446744073709551615 ∧ b.exact? = some 18446744073709551615 ∧
      c.exact? = some (-9223372036854775808) ∧ compareOrder .numericWiden a b = some .eq ∧
      compareEq .numericWiden a b = some true ∧ Policy.numericWiden.AtMost b a ∧
      compareOrder .numericWiden c b = some .lt := by
  intro a b c
  have greatest : UInt64.toNat 18446744073709551615 = 18446744073709551615 := rfl
  have least : Int64.toInt (-9223372036854775808) = -9223372036854775808 := rfl
  have first : a.exact? = some 18446744073709551615 := by norm_num [a, Value.exact?, greatest]
  have second : b.exact? = some 18446744073709551615 := by norm_num [b, Value.exact?, Decimal.number, Decimal.signed]
  have third : c.exact? = some (-9223372036854775808) := by norm_num [c, Value.exact?, least]
  obtain ⟨order, equal, _, _, _, both⟩ := exact_comparison first second third
  obtain ⟨below, _⟩ := exact_comparison third second first
  rw [compare_eq_iff_eq.mpr rfl] at order
  rw [decide_eq_true rfl] at equal
  rw [compare_lt_iff_lt.mpr (by norm_num)] at below
  exact ⟨first, second, third, order, equal, (both.mpr rfl).2, below⟩

end TokenFilter
