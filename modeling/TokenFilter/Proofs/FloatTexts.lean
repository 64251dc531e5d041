import TokenFilter.Binary.Reader
import TokenFilter.Binary.Style
import TokenFilter.Proofs.Numerals
import TokenFilter.Proofs.Spans

set_option autoImplicit false

namespace TokenFilter.Binary

def DecimalParts.value (d : DecimalParts) : ℚ := d.coefficient * 10 ^ d.exponent

def Denotes (cs : List Char) (q : ℚ) : Prop := ∃ parts, readParts cs = some parts ∧ parts.value = q

theorem denotes_unique (cs : List Char) (q r : ℚ) (here : Denotes cs q) (there : Denotes cs r) : q = r := by
  obtain ⟨parts, read, rfl⟩ := here
  obtain ⟨parts', read', rfl⟩ := there
  rw [Option.some.inj (read.symm.trans read')]

theorem denotes_unsigned (cs : List Char) (q : ℚ) (signed : Denotes ('-' :: cs) q) : False := by
  obtain ⟨parts, read, _⟩ := signed
  cases read

theorem denotes_nonempty (cs : List Char) (q : ℚ) (read : Denotes cs q) : cs ≠ [] := by
  rintro rfl
  obtain ⟨parts, read, _⟩ := read
  cases read

section Reading

variable (whole fraction tail : List Char)

theorem read_parts_point (digits : ∀ c ∈ whole, c.isDigit = true) (digits' : ∀ c ∈ fraction, c.isDigit = true)
    (nonempty : whole ≠ []) (stops : Text.Stops Text.isPointed tail) :
    readParts (whole ++ '.' :: (fraction ++ tail)) = (readExponent tail).map fun exponent =>
      ⟨Integer.ofDigits (whole ++ fraction), exponent - fraction.length⟩ := by
  obtain ⟨taken, dropped⟩ :=
    Text.run_take Char.isDigit whole ('.' :: (fraction ++ tail)) digits (Text.stops_cons _ _ _ rfl)
  obtain ⟨taken', dropped'⟩ := Text.run_take Char.isDigit fraction tail digits' (Text.pointed_stops tail stops)
  unfold readParts
  simp only [taken, dropped, taken', dropped']
  rw [if_neg (by simp [nonempty])]

theorem read_parts_plain (digits : ∀ c ∈ whole, c.isDigit = true) (nonempty : whole ≠ [])
    (stops : Text.Stops Text.isPointed tail) :
    readParts (whole ++ tail) = (readExponent tail).map fun exponent => ⟨Integer.ofDigits whole, exponent⟩ := by
  obtain ⟨taken, dropped⟩ := Text.run_take Char.isDigit whole tail digits (Text.pointed_stops tail stops)
  have pointless := Text.stops_pointless tail stops
  unfold readParts
  simp only [taken, dropped]
  simp only [List.append_nil]
  rw [if_neg (by simp [nonempty])]
  simp

theorem read_exponent_plus (digits : ∀ c ∈ whole, c.isDigit = true) (nonempty : whole ≠ []) :
    readExponent ('e' :: '+' :: whole) = some (Integer.ofDigits whole : Int) := by
  have all : whole.all Char.isDigit = true := List.all_eq_true.mpr digits
  simp [readExponent, nonempty, all]

theorem read_exponent_minus (digits : ∀ c ∈ whole, c.isDigit = true) (nonempty : whole ≠ []) :
    readExponent ('e' :: '-' :: whole) = some (-(Integer.ofDigits whole : Int)) := by
  have all : whole.all Char.isDigit = true := List.all_eq_true.mpr digits
  simp [readExponent, nonempty, all]

theorem read_exponent_digits (digits : ∀ c ∈ whole, c.isDigit = true) (nonempty : whole ≠ []) :
    readExponent ('e' :: whole) = some (Integer.ofDigits whole : Int) := by
  have all : whole.all Char.isDigit = true := List.all_eq_true.mpr digits
  have unsigned : ∀ sign more, sign.isDigit = false → whole ≠ sign :: more := by
    intro sign more other same
    have digit := digits sign (by simp [same])
    rw [other] at digit
    cases digit
  have minus : ∀ more, whole ≠ '-' :: more := fun more => unsigned '-' more rfl
  have plus : ∀ more, whole ≠ '+' :: more := fun more => unsigned '+' more rfl
  simp [readExponent, nonempty, all]

theorem plain_denotes (exponent : Int) (digits : ∀ c ∈ whole, c.isDigit = true) (nonempty : whole ≠ [])
    (stops : Text.Stops Text.isPointed tail) (read : readExponent tail = some exponent) :
    Denotes (whole ++ tail) (Integer.ofDigits whole * 10 ^ exponent) :=
  ⟨⟨Integer.ofDigits whole, exponent⟩, by rw [read_parts_plain whole tail digits nonempty stops, read]; rfl, rfl⟩

theorem point_denotes (exponent : Int) (digits : ∀ c ∈ whole, c.isDigit = true)
    (digits' : ∀ c ∈ fraction, c.isDigit = true) (nonempty : whole ≠ []) (stops : Text.Stops Text.isPointed tail)
    (read : readExponent tail = some exponent) :
    Denotes (whole ++ '.' :: (fraction ++ tail))
      (Integer.ofDigits (whole ++ fraction) * 10 ^ (exponent - fraction.length)) :=
  ⟨⟨Integer.ofDigits (whole ++ fraction), exponent - fraction.length⟩,
    by rw [read_parts_point whole fraction tail digits digits' nonempty stops, read]; rfl, rfl⟩

end Reading

theorem read_exponent_chars (plus : Bool) (exponent : Int) :
    readExponent ((if plus && 0 ≤ exponent then ['e', '+'] else ['e']) ++ Integer.chars exponent) = some exponent := by
  cases exponent with
  | ofNat n =>
      have read := Integer.of_natural n
      cases plus with
      | false =>
          have digits := read_exponent_digits _ (Integer.natural_digits n) (Integer.natural_not_nil n)
          rw [read] at digits
          exact digits
      | true =>
          have digits := read_exponent_plus _ (Integer.natural_digits n) (Integer.natural_not_nil n)
          rw [read] at digits
          exact digits
  | negSucc n =>
      have read := Integer.of_natural (n + 1)
      have digits := read_exponent_minus _ (Integer.natural_digits (n + 1)) (Integer.natural_not_nil (n + 1))
      rw [read] at digits
      rw [if_neg (by simp)]
      exact digits

theorem zeros_value (n zeros : Nat) (exponent : Int) :
    ((n * 10 ^ zeros : Nat) : ℚ) * 10 ^ exponent = n * 10 ^ (exponent + zeros) := by
  rw [zpow_add₀ (by norm_num), zpow_natCast]
  push_cast
  ring

theorem zeros_digits (count : Nat) : ∀ c ∈ List.replicate count '0', c.isDigit = true := by
  intro c member
  rw [(List.mem_replicate.mp member).2]
  rfl

section Forms

variable (digits : List Char) (all : ∀ c ∈ digits, c.isDigit = true)

include all

theorem below_denotes (point : Int) (below : point ≤ 0) :
    Denotes ('0' :: '.' :: List.replicate (-point).toNat '0' ++ digits)
      (Integer.ofDigits digits * 10 ^ (point - digits.length)) := by
  have fraction : ∀ c ∈ List.replicate (-point).toNat '0' ++ digits, c.isDigit = true := by
    intro c member
    exact (List.mem_append.mp member).elim (zeros_digits _ c) (all c)
  have read := point_denotes ['0'] (List.replicate (-point).toNat '0' ++ digits) [] 0 (by simp) fraction (by simp)
    (Text.stops_nil _) rfl
  have places : (0 : Int) - ((List.replicate (-point).toNat '0' ++ digits).length : Int) = point - digits.length := by
    rw [List.length_append, List.length_replicate]
    omega
  have number : Integer.ofDigits (['0'] ++ (List.replicate (-point).toNat '0' ++ digits)) =
      Integer.ofDigits digits := by
    rw [Integer.of_digits_append, Integer.of_digits_append, Integer.of_zeros, Nat.zero_mul, Nat.zero_add]
    exact (congrArg (· + Integer.ofDigits digits) (Nat.zero_mul _)).trans (Nat.zero_add _)
  rw [places, number, List.append_nil] at read
  exact read

variable (nonempty : digits ≠ [])

include nonempty

theorem filled_denotes (zeros : Nat) (pointZero : Bool) :
    Denotes
      (if pointZero then (digits ++ List.replicate zeros '0') ++ ['.', '0'] else digits ++ List.replicate zeros '0')
      (Integer.ofDigits digits * 10 ^ (zeros : Int)) := by
  have filled : ∀ c ∈ digits ++ List.replicate zeros '0', c.isDigit = true := by
    intro c member
    exact (List.mem_append.mp member).elim (all c) (zeros_digits _ c)
  have nonempty' : digits ++ List.replicate zeros '0' ≠ [] := List.append_ne_nil_of_left_ne_nil nonempty _
  have whole : Integer.ofDigits (digits ++ List.replicate zeros '0') = Integer.ofDigits digits * 10 ^ zeros := by
    rw [Integer.of_digits_append, Integer.of_zeros, List.length_replicate, Nat.add_zero]
  cases pointZero with
  | false =>
      have read := plain_denotes (digits ++ List.replicate zeros '0') [] 0 filled nonempty' (Text.stops_nil _) rfl
      rw [whole, zeros_value, zero_add, List.append_nil] at read
      exact read
  | true =>
      have read := point_denotes (digits ++ List.replicate zeros '0') ['0'] [] 0 filled (by simp) nonempty'
        (Text.stops_nil _) rfl
      have one : Integer.ofDigits ((digits ++ List.replicate zeros '0') ++ ['0']) =
          Integer.ofDigits digits * 10 ^ (zeros + 1) := by
        rw [Integer.of_digits_append, whole]
        exact Nat.mul_assoc _ _ _
      have places : (0 : Int) - (['0'].length : Int) + ((zeros + 1 : Nat) : Int) = zeros := by
        rw [List.length_singleton]
        omega
      rw [one, zeros_value, places] at read
      exact read

theorem among_denotes (point : Nat) (pos : 0 < point) :
    Denotes (digits.take point ++ '.' :: digits.drop point)
      (Integer.ofDigits digits * 10 ^ (-((digits.drop point).length : Int))) := by
  have some : digits.take point ≠ [] := by
    simp only [ne_eq, List.take_eq_nil_iff, not_or]
    exact ⟨by omega, nonempty⟩
  have read := point_denotes (digits.take point) (digits.drop point) [] 0
    (fun c member => all c (List.mem_of_mem_take member)) (fun c member => all c (List.mem_of_mem_drop member)) some
    (Text.stops_nil _) rfl
  rw [List.take_append_drop, List.append_nil, zero_sub] at read
  exact read

theorem positional_denotes (point : Int) (pointZero : Bool) :
    Denotes (positionalChars pointZero digits point) (Integer.ofDigits digits * 10 ^ (point - digits.length)) := by
  unfold positionalChars
  by_cases below : point ≤ 0
  · rw [if_pos below]
    exact below_denotes digits all point below
  · rw [if_neg below]
    cases after : digits.drop point.toNat with
    | nil =>
        have short := List.drop_eq_nil_iff.mp after
        have read := filled_denotes digits all nonempty (point.toNat - digits.length) pointZero
        have places : ((point.toNat - digits.length : Nat) : Int) = point - digits.length := by omega
        rw [places] at read
        simpa only [List.take_of_length_le short] using read
    | cons c fraction =>
        have long : point.toNat < digits.length := by
          have some := congrArg List.length after
          rw [List.length_drop, List.length_cons] at some
          omega
        have read := among_denotes digits all nonempty point.toNat (by omega)
        have places : -((digits.drop point.toNat).length : Int) = point - digits.length := by
          rw [List.length_drop]
          omega
        have full : point.toNat - (digits.take point.toNat).length = 0 := by
          rw [List.length_take]
          omega
        rw [places, after] at read
        simpa only [full, List.replicate_zero, List.append_nil] using read

theorem exponent_denotes (plus : Bool) (first : Int) :
    Denotes (exponentChars plus digits first) (Integer.ofDigits digits * 10 ^ (first + 1 - digits.length)) := by
  have mark : ∀ rest, Text.Stops Text.isPointed ((if plus && 0 ≤ first then ['e', '+'] else ['e']) ++ rest) := by
    intro rest
    split <;> exact Text.stops_cons _ _ _ rfl
  cases digits with
  | nil => exact absurd rfl nonempty
  | cons d rest =>
      cases rest with
      | nil =>
          have read := plain_denotes [d] _ first all nonempty (mark (Integer.chars first))
            (read_exponent_chars plus first)
          have places : first + 1 - ([d].length : Int) = first := by
            rw [List.length_singleton]
            omega
          rw [places]
          unfold exponentChars
          rw [List.append_assoc]
          exact read
      | cons e more =>
          have read := point_denotes [d] (e :: more) _ first (fun c member => all c (by simp_all))
            (fun c member => all c (List.mem_cons_of_mem d member)) (by simp) (mark (Integer.chars first))
            (read_exponent_chars plus first)
          have places : first + 1 - ((d :: e :: more).length : Int) = first - ((e :: more).length : Int) := by
            rw [List.length_cons]
            omega
          rw [places]
          unfold exponentChars
          rw [List.append_assoc]
          exact read

end Forms

section Magnitudes

variable (style : Style) (f : Format)

theorem zero_denotes : Denotes (style.magnitudeChars f 0) 0 := by
  have read := positional_denotes ['0'] (by simp) (by simp) 1 style.pointZero
  have zero : Integer.ofDigits ['0'] = 0 := rfl
  rw [zero, Nat.cast_zero, zero_mul] at read
  exact read

theorem magnitude_denotes (rank : Nat) : Denotes (style.magnitudeChars f (rank + 1))
    ((shortest f style.tie (rank + 1)).1 * 10 ^ (shortest f style.tie (rank + 1)).2) := by
  unfold Style.magnitudeChars
  rw [if_neg (Nat.succ_ne_zero rank)]
  obtain ⟨coefficient, exponent⟩ := shortest f style.tie (rank + 1)
  have all := Integer.natural_digits coefficient
  have nonempty := Integer.natural_not_nil coefficient
  have places : exponent + ((Integer.naturalChars coefficient).length : Int) - 1 + 1 -
      ((Integer.naturalChars coefficient).length : Int) = exponent := by omega
  simp only
  split
  · have read := positional_denotes _ all nonempty
      (exponent + ((Integer.naturalChars coefficient).length : Int) - 1 + 1) style.pointZero
    rw [Integer.of_natural, places] at read
    exact read
  · have read := exponent_denotes _ all nonempty style.plusExponent
      (exponent + ((Integer.naturalChars coefficient).length : Int) - 1)
    rw [Integer.of_natural, places] at read
    exact read

theorem magnitude_denotes_some (rank : Nat) : ∃ q, Denotes (style.magnitudeChars f rank) q := by
  cases rank with
  | zero => exact ⟨_, zero_denotes style f⟩
  | succ rank => exact ⟨_, magnitude_denotes style f rank⟩

theorem magnitude_unsigned (rank : Nat) (cs : List Char) (same : style.magnitudeChars f rank = '-' :: cs) : False := by
  obtain ⟨q, read⟩ := magnitude_denotes_some style f rank
  rw [same] at read
  exact denotes_unsigned cs q read

theorem finite_chars (negative : Bool) (rank : Nat) (rank_le : rank ≤ f.infinity)
    (finite : isFinite (.number negative rank rank_le) = true) :
    style.chars (.number negative rank rank_le) =
      (if negative then ['-'] else []) ++ style.magnitudeChars f rank := by
  have below : ¬rank = f.infinity := by
    have less : rank < f.infinity := of_decide_eq_true finite
    omega
  unfold Style.chars
  cases negative <;> simp [below]

variable (enough : 2 ^ (f.fractionBits + 2) ≤ 10 ^ 17)

include enough

theorem magnitude_positive (rank : Nat) (same : style.magnitudeChars f (rank + 1) = style.magnitudeChars f 0) :
    False := by
  have read := magnitude_denotes style f rank
  rw [same] at read
  have zero := denotes_unique _ _ _ read (zero_denotes style f)
  have positive := span_pos f rank _ (shortest_admits f rank style.tie enough)
  rw [zero] at positive
  exact lt_irrefl 0 positive

-- The text gives a decimal that stands for one rank only.
theorem magnitude_inj (a b : Nat) (same : style.magnitudeChars f a = style.magnitudeChars f b) : a = b := by
  cases a with
  | zero =>
      cases b with
      | zero => rfl
      | succ b => exact (magnitude_positive style f enough b same.symm).elim
  | succ a =>
      cases b with
      | zero => exact (magnitude_positive style f enough a same).elim
      | succ b =>
          have read := magnitude_denotes style f a
          rw [same] at read
          have values := denotes_unique _ _ _ read (magnitude_denotes style f b)
          have here := shortest_admits f a style.tie enough
          rw [values] at here
          exact congrArg Nat.succ (span_unique f a b _ here (shortest_admits f b style.tie enough))

theorem finite_inj (x y : Binary f) (finite : isFinite x = true) (finite' : isFinite y = true)
    (same : style.chars x = style.chars y) : x = y := by
  cases x with
  | nan => cases finite
  | number negative rank rank_le =>
      cases y with
      | nan => cases finite'
      | number negative' rank' rank_le' =>
          rw [finite_chars _ _ _ _ _ finite, finite_chars _ _ _ _ _ finite'] at same
          cases negative <;> cases negative'
          · cases magnitude_inj style f enough rank rank' same
            rfl
          · exact (magnitude_unsigned style f rank _ same).elim
          · exact (magnitude_unsigned style f rank' _ same.symm).elim
          · cases magnitude_inj style f enough rank rank' (List.cons.inj same).2
            rfl

end Magnitudes

section Characters

theorem digits_numerals (digits : List Char) (all : ∀ c ∈ digits, c.isDigit = true) :
    ∀ c ∈ digits, Text.isNumeral c = true := fun c member => Text.digit_numeral c (all c member)

theorem positional_sorts (digits : List Char) (all : ∀ c ∈ digits, c.isDigit = true) (point : Int) (pointZero : Bool) :
    ∀ c ∈ positionalChars pointZero digits point, Text.isNumeral c = true := by
  have zeros : ∀ count, ∀ c ∈ List.replicate count '0', Text.isNumeral c = true := fun count =>
    digits_numerals _ (zeros_digits count)
  have front : ∀ c ∈ digits.take point.toNat, Text.isNumeral c = true := fun c member =>
    digits_numerals digits all c (List.mem_of_mem_take member)
  have back : ∀ c ∈ digits.drop point.toNat, Text.isNumeral c = true := fun c member =>
    digits_numerals digits all c (List.mem_of_mem_drop member)
  unfold positionalChars
  by_cases below : point ≤ 0
  · rw [if_pos below]
    refine List.forall_mem_append.mpr ⟨?_, digits_numerals digits all⟩
    exact List.forall_mem_cons.mpr ⟨rfl, List.forall_mem_cons.mpr ⟨rfl, zeros _⟩⟩
  · rw [if_neg below]
    have filled := List.forall_mem_append.mpr ⟨front, zeros (point.toNat - (digits.take point.toNat).length)⟩
    cases after : digits.drop point.toNat with
    | nil =>
        cases pointZero with
        | false => exact filled
        | true =>
            refine List.forall_mem_append.mpr ⟨filled, ?_⟩
            exact List.forall_mem_cons.mpr ⟨rfl, List.forall_mem_singleton.mpr rfl⟩
    | cons c fraction =>
        rw [after] at back
        exact List.forall_mem_append.mpr ⟨filled, List.forall_mem_cons.mpr ⟨rfl, back⟩⟩

theorem exponent_sorts (plus : Bool) (digits : List Char) (all : ∀ c ∈ digits, c.isDigit = true) (first : Int) :
    ∀ c ∈ exponentChars plus digits first, Text.isNumeral c = true := by
  have number : ∀ c ∈ Integer.chars first, Text.isNumeral c = true := by
    intro c member
    rcases Integer.chars_sorts first c member with rfl | digit
    · rfl
    · exact Text.digit_numeral c digit
  have mark : ∀ c ∈ if plus && 0 ≤ first then ['e', '+'] else ['e'], Text.isNumeral c = true := by
    split
    · exact List.forall_mem_cons.mpr ⟨rfl, List.forall_mem_singleton.mpr rfl⟩
    · exact List.forall_mem_singleton.mpr rfl
  have numerals := digits_numerals digits all
  unfold exponentChars
  refine List.forall_mem_append.mpr ⟨List.forall_mem_append.mpr ⟨?_, mark⟩, number⟩
  cases digits with
  | nil => exact numerals
  | cons d rest =>
      cases rest with
      | nil => exact numerals
      | cons e more =>
          obtain ⟨first, others⟩ := List.forall_mem_cons.mp numerals
          exact List.forall_mem_cons.mpr ⟨first, List.forall_mem_cons.mpr ⟨rfl, others⟩⟩

variable (style : Style) {f : Format}

theorem magnitude_sorts (rank : Nat) : ∀ c ∈ style.magnitudeChars f rank, Text.isNumeral c = true := by
  unfold Style.magnitudeChars
  split
  · exact positional_sorts ['0'] (by simp) 1 style.pointZero
  · simp only
    split
    · exact positional_sorts _ (Integer.natural_digits _) _ _
    · exact exponent_sorts _ _ (Integer.natural_digits _) _

theorem finite_sorts (x : Binary f) (finite : isFinite x = true) :
    style.chars x ≠ [] ∧ ∀ c ∈ style.chars x, Text.isNumeral c = true := by
  cases x with
  | nan => cases finite
  | number negative rank rank_le =>
      obtain ⟨q, read⟩ := magnitude_denotes_some style f rank
      rw [finite_chars _ _ _ _ _ finite]
      refine ⟨List.append_ne_nil_of_right_ne_nil _ (denotes_nonempty _ q read), ?_⟩
      refine List.forall_mem_append.mpr ⟨?_, magnitude_sorts style rank⟩
      cases negative with
      | false =>
          intro c member
          cases member
      | true => exact List.forall_mem_singleton.mpr rfl

end Characters

end TokenFilter.Binary
