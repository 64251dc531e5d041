import Mathlib.Data.List.TakeWhile
import TokenFilter.Guid
import TokenFilter.Integer

set_option autoImplicit false

namespace TokenFilter

namespace Text

def Stops (p : Char → Bool) (cs : List Char) : Prop := ∀ c ∈ cs.head?, p c = false

theorem stops_nil (p : Char → Bool) : Stops p [] := by
  intro c member
  cases member

theorem stops_cons (p : Char → Bool) (c : Char) (cs : List Char) (other : p c = false) : Stops p (c :: cs) := by
  intro d member
  cases member
  exact other

theorem stops_take (p : Char → Bool) (rest : List Char) (stops : Stops p rest) :
    rest.takeWhile p = [] ∧ rest.dropWhile p = rest := by
  cases rest with
  | nil => exact ⟨rfl, rfl⟩
  | cons c rest =>
      have other := stops c rfl
      simp [other]

theorem run_take (p : Char → Bool) (xs rest : List Char) (run : ∀ c ∈ xs, p c = true) (stops : Stops p rest) :
    (xs ++ rest).takeWhile p = xs ∧ (xs ++ rest).dropWhile p = rest := by
  obtain ⟨taken, dropped⟩ := stops_take p rest stops
  rw [List.takeWhile_append_of_pos run, List.dropWhile_append_of_pos run, taken, dropped, List.append_nil]
  exact ⟨rfl, rfl⟩

theorem run_unique (p : Char → Bool) (xs ys rest others : List Char) (run : ∀ c ∈ xs, p c = true)
    (run' : ∀ c ∈ ys, p c = true) (stops : Stops p rest) (stops' : Stops p others)
    (same : xs ++ rest = ys ++ others) : xs = ys ∧ rest = others := by
  obtain ⟨taken, dropped⟩ := run_take p xs rest run stops
  obtain ⟨taken', dropped'⟩ := run_take p ys others run' stops'
  rw [same, taken'] at taken
  rw [same, dropped'] at dropped
  exact ⟨taken.symm, dropped.symm⟩

def Opens (p : Char → Bool) (cs : List Char) : Prop := ∃ c rest, cs = c :: rest ∧ p c = true

theorem run_opens (p : Char → Bool) (cs : List Char) (run : ∀ c ∈ cs, p c = true) (some : cs ≠ []) : Opens p cs := by
  obtain ⟨c, rest, shape⟩ := List.exists_cons_of_ne_nil some
  exact ⟨c, rest, shape, run c (by simp [shape])⟩

theorem opens_append (p : Char → Bool) (cs more : List Char) (opens : Opens p cs) : Opens p (cs ++ more) := by
  obtain ⟨c, rest, rfl, sort⟩ := opens
  exact ⟨c, rest ++ more, rfl, sort⟩

theorem opens_other (p : Char → Bool) (cs : List Char) (opens : Opens p cs) (c : Char) (rest : List Char)
    (other : p c = false) : cs ≠ c :: rest := by
  obtain ⟨d, after, rfl, sort⟩ := opens
  intro same
  rw [← (List.cons.inj same).1, sort] at other
  cases other

def isPointed (c : Char) : Bool := c.isDigit || c == '.'

def isNumeral (c : Char) : Bool := isPointed c || c == '-' || c == '+' || c == 'e'

theorem pointed_stops (rest : List Char) (stops : Stops isPointed rest) : Stops Char.isDigit rest := by
  intro c first
  have other := stops c first
  rw [isPointed, Bool.or_eq_false_iff] at other
  exact other.1

theorem stops_pointless (rest : List Char) (stops : Stops isPointed rest) (more : List Char) : rest ≠ '.' :: more := by
  rintro rfl
  exact absurd (stops '.' rfl) (by decide)

theorem digit_numeral (c : Char) (digit : c.isDigit = true) : isNumeral c = true := by
  rw [isNumeral, isPointed, digit]
  rfl

end Text

namespace Integer

theorem natural_digits (n : Nat) : ∀ c ∈ naturalChars n, c.isDigit = true := by
  intro c member
  exact Nat.isDigit_of_mem_toDigits (by decide) (by decide) member

theorem natural_not_nil (n : Nat) : naturalChars n ≠ [] := Nat.toDigits_ne_nil

theorem of_natural (n : Nat) : ofDigits (naturalChars n) = n := Nat.ofDigitChars_ten_toDigits

theorem of_digits_append (xs ys : List Char) : ofDigits (xs ++ ys) = ofDigits xs * 10 ^ ys.length + ofDigits ys := by
  rw [ofDigits, Nat.ofDigitChars_append, Nat.ofDigitChars_eq_ofDigitChars_zero, Nat.mul_comm]
  rfl

theorem of_zeros (n : Nat) : ofDigits (List.replicate n '0') = 0 := by
  rw [ofDigits, Nat.ofDigitChars_replicate_zero, Nat.mul_zero]

theorem natural_inj (a b : Nat) (same : naturalChars a = naturalChars b) : a = b := by
  have value := congrArg ofDigits same
  rwa [of_natural, of_natural] at value

theorem padded_digits (width n : Nat) : ∀ c ∈ paddedChars width n, c.isDigit = true := by
  intro c member
  rcases List.mem_append.mp member with zero | digit
  · rw [(List.mem_replicate.mp zero).2]
    rfl
  · exact natural_digits n c digit

theorem padded_opens (width n : Nat) : Text.Opens Char.isDigit (paddedChars width n) :=
  Text.run_opens _ _ (padded_digits width n) (List.append_ne_nil_of_right_ne_nil _ (natural_not_nil n))

theorem of_padded (width n : Nat) : ofDigits (paddedChars width n) = n := by
  unfold paddedChars
  rw [of_digits_append, of_zeros, of_natural, Nat.zero_mul, Nat.zero_add]

theorem padded_inj (width a b : Nat) (same : paddedChars width a = paddedChars width b) : a = b := by
  have value := congrArg ofDigits same
  rwa [of_padded, of_padded] at value

theorem padded_length (width n : Nat) (some : 0 < width) (fits : n < 10 ^ width) :
    (paddedChars width n).length = width := by
  have few : (naturalChars n).length ≤ width := (Nat.length_toDigits_le_iff (by decide) some).mpr fits
  unfold paddedChars
  rw [List.length_append, List.length_replicate]
  omega

theorem padded_then (width a b : Nat) (rest others : List Char) (some : 0 < width) (small : a < 10 ^ width)
    (small' : b < 10 ^ width) (same : paddedChars width a ++ rest = paddedChars width b ++ others) :
    a = b ∧ rest = others := by
  have lengths : (paddedChars width a).length = (paddedChars width b).length := by
    rw [padded_length width a some small, padded_length width b some small']
  obtain ⟨digits, rest⟩ := List.append_inj same lengths
  exact ⟨padded_inj width a b digits, rest⟩

theorem padded_run (width a b : Nat) (rest others : List Char) (stops : Text.Stops Char.isDigit rest)
    (stops' : Text.Stops Char.isDigit others) (same : paddedChars width a ++ rest = paddedChars width b ++ others) :
    a = b ∧ rest = others := by
  obtain ⟨digits, rest⟩ := Text.run_unique Char.isDigit _ _ rest others (padded_digits width a) (padded_digits width b)
    stops stops' same
  exact ⟨padded_inj width a b digits, rest⟩

theorem natural_unsigned (n : Nat) (sign : Char) (cs : List Char) (other : sign.isDigit = false) :
    naturalChars n ≠ sign :: cs :=
  Text.opens_other _ _ (Text.run_opens _ _ (natural_digits n) (natural_not_nil n)) sign cs other

theorem chars_inj (a b : Int) (same : chars a = chars b) : a = b := by
  cases a with
  | ofNat n =>
      cases b with
      | ofNat m => exact congrArg Int.ofNat (natural_inj n m same)
      | negSucc m => exact absurd same (natural_unsigned n '-' _ rfl)
  | negSucc n =>
      cases b with
      | ofNat m => exact absurd same.symm (natural_unsigned m '-' _ rfl)
      | negSucc m =>
          have magnitudes := natural_inj _ _ (List.cons.inj same).2
          exact congrArg Int.negSucc (Nat.succ.inj magnitudes)

theorem chars_not_nil (n : Int) : chars n ≠ [] := by
  cases n with
  | ofNat n => exact natural_not_nil n
  | negSucc n => exact List.cons_ne_nil _ _

theorem chars_sorts (n : Int) : ∀ c ∈ chars n, c = '-' ∨ c.isDigit = true := by
  intro c member
  cases n with
  | ofNat n => exact .inr (natural_digits n c member)
  | negSucc n =>
      rcases List.mem_cons.mp member with rfl | digit
      · exact .inl rfl
      · exact .inr (natural_digits _ c digit)

end Integer

namespace Guid

theorem hex_digit (n : Nat) (digit : n < 16) : hexValue? n.digitChar = some n := by
  revert n
  decide

theorem hex_from_append (value : Nat) (xs ys : List Char) :
    hexFrom? value (xs ++ ys) = (hexFrom? value xs).bind fun front => hexFrom? front ys := by
  induction xs generalizing value with
  | nil => rfl
  | cons c xs ih =>
      rw [List.cons_append, hexFrom?, hexFrom?]
      cases hexValue? c with
      | none => rfl
      | some digit => exact ih _

theorem hex_from_zeros (count : Nat) : hexFrom? 0 (List.replicate count '0') = some 0 := by
  induction count with
  | zero => rfl
  | succ count ih => exact ih

theorem hex_from_digits (n : Nat) : hexFrom? 0 (Nat.toDigits 16 n) = some n := by
  induction n using Nat.strongRecOn with
  | ind n ih =>
      rw [Nat.toDigits_eq_if (by decide)]
      by_cases small : n < 16
      · rw [if_pos small, hexFrom?, hex_digit n small, Option.bind_some, hexFrom?, Nat.zero_mul, Nat.zero_add]
      · have last := hex_digit (n % 16) (Nat.mod_lt n (by decide))
        rw [if_neg small, hex_from_append, ih (n / 16) (by omega)]
        simp only [Option.bind_some, hexFrom?, last]
        congr 1
        omega

theorem hex_from_hex (value n : Nat) (cs : List Char) (read : hexFrom? value cs = some n) :
    ∀ c ∈ cs, (hexValue? c).isSome = true := by
  induction cs generalizing value with
  | nil => simp
  | cons c cs ih =>
      obtain ⟨digit, found, rest⟩ := Option.bind_eq_some_iff.mp read
      exact List.forall_mem_cons.mpr ⟨by rw [found]; rfl, ih _ rest⟩

theorem hex_chars_read (g : Guid) : hexFrom? 0 g.hexChars = some g.bits.toNat := by
  unfold hexChars
  rw [hex_from_append, hex_from_zeros, Option.bind_some, hex_from_digits]

theorem hex_chars_length (g : Guid) : g.hexChars.length = 32 := by
  have few : (Nat.toDigits 16 g.bits.toNat).length ≤ 32 :=
    (Nat.length_toDigits_le_iff (by decide) (by decide)).mpr g.bits.isLt
  unfold hexChars
  rw [List.length_append, List.length_replicate]
  omega

end Guid

end TokenFilter
