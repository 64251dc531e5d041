import Mathlib.Algebra.Order.Field.Power
import Mathlib.Algebra.Order.Ring.Rat
import Mathlib.Tactic.FieldSimp
import Mathlib.Tactic.Linarith
import Mathlib.Tactic.Positivity
import Mathlib.Tactic.Ring
import TokenFilter.Binary.Shortest

set_option autoImplicit false

namespace TokenFilter.Binary

namespace Format

variable (f : Format)

def gap (f : Format) (rank : Nat) : Nat := 2 ^ (rank / 2 ^ f.fractionBits - 1)

theorem gap_pos (rank : Nat) : 0 < f.gap rank := Nat.two_pow_pos _

theorem fields_cases (rank : Nat) : rank < 2 ^ f.fractionBits ∨
    ∃ exponent fraction, fraction < 2 ^ f.fractionBits ∧ rank = (exponent + 1) * 2 ^ f.fractionBits + fraction := by
  by_cases small : rank < 2 ^ f.fractionBits
  · exact .inl small
  · have step := Nat.two_pow_pos f.fractionBits
    have whole : 0 < rank / 2 ^ f.fractionBits := Nat.div_pos (by omega) step
    refine .inr ⟨rank / 2 ^ f.fractionBits - 1, rank % 2 ^ f.fractionBits, Nat.mod_lt _ step, ?_⟩
    rw [Nat.sub_add_cancel whole, Nat.mul_comm, Nat.div_add_mod]

theorem units_small (rank : Nat) (small : rank < 2 ^ f.fractionBits) : f.units rank = rank := if_pos small

theorem gap_small (rank : Nat) (small : rank < 2 ^ f.fractionBits) : f.gap rank = 1 := by
  rw [gap, Nat.div_eq_of_lt small]
  rfl

section Fields

variable (exponent fraction : Nat) (bound : fraction < 2 ^ f.fractionBits)

include bound

theorem fields_div : ((exponent + 1) * 2 ^ f.fractionBits + fraction) / 2 ^ f.fractionBits = exponent + 1 := by
  rw [Nat.add_comm, Nat.add_mul_div_right _ _ (Nat.two_pow_pos _), Nat.div_eq_of_lt bound, Nat.zero_add]

theorem gap_fields : f.gap ((exponent + 1) * 2 ^ f.fractionBits + fraction) = 2 ^ exponent := by
  rw [gap, fields_div f exponent fraction bound, Nat.add_sub_cancel]

theorem units_fields : f.units ((exponent + 1) * 2 ^ f.fractionBits + fraction) =
    (2 ^ f.fractionBits + fraction) * 2 ^ exponent := by
  have large : ¬(exponent + 1) * 2 ^ f.fractionBits + fraction < 2 ^ f.fractionBits := by
    rw [Nat.succ_mul]
    omega
  have remainder : ((exponent + 1) * 2 ^ f.fractionBits + fraction) % 2 ^ f.fractionBits = fraction := by
    rw [Nat.add_comm, Nat.add_mul_mod_self_right, Nat.mod_eq_of_lt bound]
  unfold units
  simp only [if_neg large, remainder, fields_div f exponent fraction bound, Nat.add_sub_cancel]

end Fields

theorem units_succ (rank : Nat) : f.units (rank + 1) = f.units rank + f.gap rank := by
  have step := Nat.two_pow_pos f.fractionBits
  cases f.fields_cases rank with
  | inl small =>
      rw [units_small f rank small, gap_small f rank small]
      by_cases next : rank + 1 < 2 ^ f.fractionBits
      · exact units_small f _ next
      · have whole : rank + 1 = (0 + 1) * 2 ^ f.fractionBits + 0 := by omega
        rw [whole, units_fields f 0 0 step]
        omega
  | inr fields =>
      obtain ⟨exponent, fraction, bound, rfl⟩ := fields
      rw [units_fields f _ _ bound, gap_fields f _ _ bound, Nat.add_assoc]
      by_cases next : fraction + 1 < 2 ^ f.fractionBits
      · rw [units_fields f _ _ next]
        ring
      · have whole : (exponent + 1) * 2 ^ f.fractionBits + (fraction + 1) =
            (exponent + 1 + 1) * 2 ^ f.fractionBits + 0 := by
          rw [Nat.succ_mul (exponent + 1)]
          omega
        have last : fraction + 1 = 2 ^ f.fractionBits := by omega
        calc f.units ((exponent + 1) * 2 ^ f.fractionBits + (fraction + 1))
            = 2 ^ f.fractionBits * 2 ^ (exponent + 1) := by rw [whole, units_fields f _ 0 step, Nat.add_zero]
          _ = (2 ^ f.fractionBits + (fraction + 1)) * 2 ^ exponent := by
            rw [last]
            ring
          _ = (2 ^ f.fractionBits + fraction) * 2 ^ exponent + 2 ^ exponent := by ring

theorem units_strict : StrictMono f.units := by
  refine strictMono_nat_of_lt_succ fun rank => ?_
  have more := f.gap_pos rank
  rw [units_succ]
  omega

theorem units_le_gap (rank : Nat) : f.units (rank + 1) ≤ 2 ^ (f.fractionBits + 1) * f.gap rank := by
  have step := Nat.two_pow_pos f.fractionBits
  rw [units_succ, Nat.pow_succ]
  cases f.fields_cases rank with
  | inl small =>
      rw [units_small f rank small, gap_small f rank small]
      omega
  | inr fields =>
      obtain ⟨exponent, fraction, bound, rfl⟩ := fields
      rw [units_fields f _ _ bound, gap_fields f _ _ bound, ← Nat.succ_mul]
      exact Nat.mul_le_mul_right _ (by omega)

end Format

namespace Span

def Admits (s : Span) (q : ℚ) : Prop :=
  if s.closed then (s.low : ℚ) ≤ q * s.denominator ∧ q * s.denominator ≤ s.high
  else (s.low : ℚ) < q * s.denominator ∧ q * s.denominator < s.high

theorem holds_iff (s : Span) (n : Nat) : s.holds n = true ↔ s.Admits n := by
  unfold holds Admits
  cases s.closed
  · simp only [Bool.false_eq_true, if_false, Bool.and_eq_true, decide_eq_true_eq]
    norm_cast
  · simp only [if_true, Bool.and_eq_true, decide_eq_true_eq]
    norm_cast

theorem Admits.bounds {s : Span} {q : ℚ} (admits : s.Admits q) :
    (s.low : ℚ) ≤ q * s.denominator ∧ q * s.denominator ≤ s.high := by
  unfold Admits at admits
  split at admits
  · exact admits
  · exact ⟨admits.1.le, admits.2.le⟩

theorem Admits.strict {s : Span} {q : ℚ} (admits : s.Admits q) (ends : s.closed = false) :
    (s.low : ℚ) < q * s.denominator ∧ q * s.denominator < s.high := by
  unfold Admits at admits
  rwa [if_neg (ne_true_of_eq_false ends)] at admits

section Shifting

variable (s : Span) (exponent : Int)

theorem ten_pos : (0 : ℚ) < 10 ^ exponent := zpow_pos (by norm_num) exponent

-- Shifting is division by the power of ten, but for a factor that all parts have.
theorem shifted_scale : ∃ scale : ℚ, 0 < scale ∧ ((s.shifted exponent).low : ℚ) = s.low * scale ∧
    ((s.shifted exponent).value : ℚ) = s.value * scale ∧ ((s.shifted exponent).high : ℚ) = s.high * scale ∧
    ((s.shifted exponent).denominator : ℚ) = s.denominator * 10 ^ exponent * scale ∧
    (s.shifted exponent).closed = s.closed := by
  cases exponent with
  | ofNat e =>
      refine ⟨1, one_pos, ?_⟩
      simp [shifted]
  | negSucc e =>
      refine ⟨10 ^ (e + 1), by positivity, ?_⟩
      simp [shifted, zpow_negSucc]

theorem shifted_holds (n : Nat) : (s.shifted exponent).holds n = true ↔ s.Admits (n * 10 ^ exponent) := by
  obtain ⟨scale, pos, low, _, high, denominator, closed⟩ := s.shifted_scale exponent
  have shifted : (n : ℚ) * (s.denominator * 10 ^ exponent * scale) = n * 10 ^ exponent * s.denominator * scale := by
    ring
  rw [holds_iff, Admits, Admits, low, high, denominator, closed, shifted, mul_le_mul_iff_left₀ pos,
    mul_le_mul_iff_left₀ pos, mul_lt_mul_iff_left₀ pos, mul_lt_mul_iff_left₀ pos]

end Shifting

theorem pick_some (tie : Tie) (s : Span) (pos : 0 < s.denominator) (room : s.low + s.denominator ≤ s.value)
    (above : s.value < s.high) : ∃ n, s.pick tie = some n := by
  have below : s.holds (s.value / s.denominator) = true := by
    have parts := Nat.div_add_mod s.value s.denominator
    have rest := Nat.mod_lt s.value pos
    rw [Nat.mul_comm] at parts
    unfold holds
    cases s.closed <;> simp <;> omega
  unfold pick
  simp only [below]
  cases s.holds (s.value / s.denominator + 1) <;> exact ⟨_, rfl⟩

theorem pick_holds (tie : Tie) (s : Span) (n : Nat) (picked : s.pick tie = some n) : s.holds n = true := by
  unfold pick at picked
  cases below : s.holds (s.value / s.denominator) with
  | false =>
      cases next : s.holds (s.value / s.denominator + 1) with
      | false => simp [below, next] at picked
      | true =>
          simp only [below, next, Option.some.injEq] at picked
          rw [← picked, next]
  | true =>
      cases next : s.holds (s.value / s.denominator + 1) with
      | false =>
          simp only [below, next, Option.some.injEq] at picked
          rw [← picked, below]
      | true =>
          have either : ∀ upper : Bool,
              s.holds (if upper then s.value / s.denominator + 1 else s.value / s.denominator) = true := by
            intro upper
            cases upper
            · exact below
            · exact next
          simp only [below, next, Option.some.injEq] at picked
          rw [← picked]
          exact either _

end Span

theorem search_admits (tie : Tie) (s : Span) (steps later : Nat) (exponent : Int) (within : later < steps)
    (hit : ∃ n, (s.shifted (exponent - later)).pick tie = some n) :
    s.Admits ((search tie s steps exponent).1 * 10 ^ (search tie s steps exponent).2) := by
  induction steps generalizing later exponent with
  | zero => cases within
  | succ steps ih =>
      unfold search
      cases picked : (s.shifted exponent).pick tie with
      | some digits => exact (s.shifted_holds exponent digits).mp (Span.pick_holds tie _ digits picked)
      | none =>
          cases later with
          | zero =>
              obtain ⟨n, found⟩ := hit
              rw [Nat.cast_zero, Int.sub_zero, picked] at found
              cases found
          | succ later =>
              refine ih later (exponent - 1) (by omega) ?_
              have same : exponent - 1 - (later : Int) = exponent - ((later + 1 : Nat) : Int) := by omega
              rw [same]
              exact hit

section Top

theorem digits_above (n : Nat) : n < 10 ^ (Nat.toDigits 10 n).length :=
  (Nat.length_toDigits_le_iff (by decide) Nat.length_toDigits_pos).mp (Nat.le_refl _)

theorem digits_below (n : Nat) (pos : 0 < n) : 10 ^ ((Nat.toDigits 10 n).length - 1) ≤ n := by
  by_cases one : (Nat.toDigits 10 n).length - 1 = 0
  · rw [one]
    exact pos
  · by_contra more
    have fewer := (Nat.length_toDigits_le_iff (by decide) (Nat.pos_of_ne_zero one)).mpr (Nat.lt_of_not_le more)
    omega

theorem top_le (s : Span) (pos : 0 < s.denominator) (some : 0 < s.value) :
    (10 : ℚ) ^ (s.topExponent - 1) * s.denominator ≤ s.value := by
  unfold Span.topExponent
  by_cases large : s.denominator ≤ s.value
  · have digits := digits_below (s.value / s.denominator) (Nat.div_pos large pos)
    have least : 1 ≤ (Nat.toDigits 10 (s.value / s.denominator)).length := Nat.length_toDigits_pos
    have whole : 10 ^ ((Nat.toDigits 10 (s.value / s.denominator)).length - 1) * s.denominator ≤ s.value :=
      Nat.le_trans (Nat.mul_le_mul_right _ digits) (Nat.div_mul_le_self _ _)
    rw [if_pos large, ← Nat.cast_one, ← Nat.cast_sub least, zpow_natCast]
    exact_mod_cast whole
  · have digits := digits_above (s.denominator / s.value)
    have whole : s.denominator ≤ s.value * 10 ^ (Nat.toDigits 10 (s.denominator / s.value)).length := by
      have less := Nat.lt_mul_div_succ s.denominator some
      exact Nat.le_trans (Nat.le_of_lt less) (Nat.mul_le_mul_left _ digits)
    rw [if_neg large, sub_right_comm, sub_self, zero_sub, zpow_neg, zpow_natCast,
      inv_mul_le_iff₀ (by positivity), mul_comm]
    exact_mod_cast whole

end Top

section Ranks

-- A place so far down that one of its digits is less than the way to the lower end.
theorem place_picked (tie : Tie) (s : Span) (exponent : Int) (pos : 0 < s.denominator)
    (room : (s.low : ℚ) + 10 ^ exponent * s.denominator ≤ s.value) (above : s.value < s.high) :
    ∃ n, (s.shifted exponent).pick tie = some n := by
  obtain ⟨scale, positive, low, value, high, denominator, _⟩ := s.shifted_scale exponent
  apply Span.pick_some
  · have shifted : (0 : ℚ) < (s.shifted exponent).denominator := by
      have old : (0 : ℚ) < s.denominator := by exact_mod_cast pos
      have power := Span.ten_pos exponent
      rw [denominator]
      positivity
    exact_mod_cast shifted
  · have shifted : ((s.shifted exponent).low : ℚ) + (s.shifted exponent).denominator ≤ (s.shifted exponent).value := by
      rw [low, denominator, value, ← add_mul, mul_comm (s.denominator : ℚ)]
      exact mul_le_mul_of_nonneg_right room positive.le
    exact_mod_cast shifted
  · have shifted : ((s.shifted exponent).value : ℚ) < (s.shifted exponent).high := by
      rw [value, high]
      exact mul_lt_mul_of_pos_right (by exact_mod_cast above) positive
    exact_mod_cast shifted

variable (f : Format) (rank : Nat)

theorem span_way : (f.span (rank + 1)).value = (f.span (rank + 1)).low + f.gap rank := by
  have next := f.units_succ rank
  change 2 * f.units (rank + 1) = f.units rank + f.units (rank + 1) + f.gap rank
  omega

theorem span_above : (f.span (rank + 1)).value < (f.span (rank + 1)).high := by
  have more := f.units_strict (Nat.lt_add_one (rank + 1))
  change 2 * f.units (rank + 1) < f.units (rank + 1) + f.units (rank + 1 + 1)
  omega

theorem span_value_pos : 0 < (f.span (rank + 1)).value := by
  have step := f.gap_pos rank
  rw [span_way]
  omega

-- Neighbours differ in the seventeenth digit at the latest.
theorem span_value_le (enough : 2 ^ (f.fractionBits + 2) ≤ 10 ^ 17) :
    (f.span (rank + 1)).value ≤ 10 ^ 17 * f.gap rank := by
  calc 2 * f.units (rank + 1)
      ≤ 2 * (2 ^ (f.fractionBits + 1) * f.gap rank) := Nat.mul_le_mul_left 2 (f.units_le_gap rank)
    _ = 2 ^ (f.fractionBits + 2) * f.gap rank := by ring
    _ ≤ 10 ^ 17 * f.gap rank := Nat.mul_le_mul_right _ enough

theorem span_room (enough : 2 ^ (f.fractionBits + 2) ≤ 10 ^ 17) :
    ((f.span (rank + 1)).low : ℚ) + 10 ^ ((f.span (rank + 1)).topExponent - (18 : Nat)) *
      (f.span (rank + 1)).denominator ≤ (f.span (rank + 1)).value := by
  have top := top_le (f.span (rank + 1)) (Nat.two_pow_pos _) (span_value_pos f rank)
  have short : ((f.span (rank + 1)).value : ℚ) ≤ 10 ^ 17 * f.gap rank := by exact_mod_cast span_value_le f rank enough
  have power : (10 : ℚ) ^ ((f.span (rank + 1)).topExponent - (18 : Nat)) * 10 ^ 17 =
      10 ^ ((f.span (rank + 1)).topExponent - 1) := by
    rw [← zpow_natCast, ← zpow_add₀ (by norm_num)]
    congr 1
    push_cast
    ring
  rw [← power] at top
  rw [span_way, Nat.cast_add]
  nlinarith

theorem shortest_admits (tie : Tie) (enough : 2 ^ (f.fractionBits + 2) ≤ 10 ^ 17) :
    (f.span (rank + 1)).Admits ((shortest f tie (rank + 1)).1 * 10 ^ (shortest f tie (rank + 1)).2) := by
  have hit := place_picked tie (f.span (rank + 1)) _ (Nat.two_pow_pos _) (span_room f rank enough) (span_above f rank)
  exact search_admits tie _ 20 18 _ (by decide) hit

variable (a b : Nat) (q : ℚ)

theorem span_ends (less : a < b) : (f.span (a + 1)).high ≤ (f.span (b + 1)).low := by
  have first : f.units (a + 1) ≤ f.units b := f.units_strict.monotone less
  have second : f.units (a + 1 + 1) ≤ f.units (b + 1) := f.units_strict.monotone (Nat.succ_le_succ less)
  exact Nat.add_le_add first second

-- Spans that have their ends do not meet: of two neighbours one number is odd.
theorem span_ends_strict (less : a < b) (closed : (f.span (a + 1)).closed = true)
    (closed' : (f.span (b + 1)).closed = true) : (f.span (a + 1)).high < (f.span (b + 1)).low := by
  have even : (a + 1) % 2 = 0 := by simpa [Format.span] using closed
  have even' : (b + 1) % 2 = 0 := by simpa [Format.span] using closed'
  have first : f.units (a + 1) < f.units b := f.units_strict (by omega)
  have second : f.units (a + 1 + 1) < f.units (b + 1) := f.units_strict (by omega)
  exact Nat.add_lt_add first second

theorem span_apart (less : a < b) (here : (f.span (a + 1)).Admits q) (there : (f.span (b + 1)).Admits q) : False := by
  have ends : ((f.span (a + 1)).high : ℚ) ≤ (f.span (b + 1)).low := by exact_mod_cast span_ends f a b less
  have denominators : (f.span (b + 1)).denominator = (f.span (a + 1)).denominator := rfl
  have bounds := here.bounds
  have bounds' := there.bounds
  rw [denominators] at bounds'
  cases closed : (f.span (a + 1)).closed with
  | false =>
      have strict := here.strict closed
      linarith
  | true =>
      cases closed' : (f.span (b + 1)).closed with
      | false =>
          have strict := there.strict closed'
          rw [denominators] at strict
          linarith
      | true =>
          have between : ((f.span (a + 1)).high : ℚ) < (f.span (b + 1)).low := by
            exact_mod_cast span_ends_strict f a b less closed closed'
          linarith

theorem span_unique (here : (f.span (a + 1)).Admits q) (there : (f.span (b + 1)).Admits q) : a = b := by
  rcases Nat.lt_trichotomy a b with less | same | more
  · exact (span_apart f a b q less here there).elim
  · exact same
  · exact (span_apart f b a q more there here).elim

theorem span_pos (admitted : (f.span (rank + 1)).Admits q) : 0 < q := by
  have low : 0 < (f.span (rank + 1)).low := by
    have positive := f.units_strict (Nat.lt_add_one rank)
    change 0 < f.units rank + f.units (rank + 1)
    omega
  have low' : (0 : ℚ) < (f.span (rank + 1)).low := by exact_mod_cast low
  have product : 0 < q * (f.span (rank + 1)).denominator := low'.trans_le admitted.bounds.1
  exact pos_of_mul_pos_left product (Nat.cast_nonneg _)

end Ranks

end TokenFilter.Binary
