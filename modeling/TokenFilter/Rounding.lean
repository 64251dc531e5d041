set_option autoImplicit false

namespace TokenFilter.Rounding

def halfEven (numerator denominator : Nat) : Nat :=
  let quotient := numerator / denominator
  let rest := 2 * (numerator % denominator)
  if rest > denominator || (rest == denominator && quotient % 2 == 1) then quotient + 1
  else quotient

def halfUp (numerator denominator : Nat) : Nat :=
  (2 * numerator + denominator) / (2 * denominator)

theorem halfUp_le (numerator denominator : Nat) : halfUp numerator denominator ≤ numerator := by
  unfold halfUp
  cases denominator with
  | zero => simp
  | succ d =>
    refine Nat.le_of_lt_succ (Nat.div_lt_of_lt_mul ?_)
    have : numerator ≤ (d + 1) * numerator := Nat.le_mul_of_pos_left _ (Nat.succ_pos d)
    rw [Nat.mul_assoc, Nat.mul_succ (d + 1)]
    omega

end TokenFilter.Rounding
