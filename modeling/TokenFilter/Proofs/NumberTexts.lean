import TokenFilter.Decimal.Reader
import TokenFilter.Proofs.Decimals
import TokenFilter.Proofs.Outcome
import TokenFilter.Proofs.ScalarTexts
import TokenFilter.Proofs.Trimming

set_option autoImplicit false

namespace TokenFilter

namespace Integer

theorem of_digits_cons (c : Char) (cs : List Char) :
    ofDigits (c :: cs) = digitValue c * 10 ^ cs.length + ofDigits cs := by
  have first : ofDigits [c] = digitValue c := Nat.zero_add _
  rw [← List.singleton_append, of_digits_append, first]

theorem digits_next (value : Nat) (c : Char) (cs : List Char) :
    value * 10 ^ (c :: cs).length + ofDigits (c :: cs) =
      (value * 10 + digitValue c) * 10 ^ cs.length + ofDigits cs := by
  rw [of_digits_cons, List.length_cons, Nat.pow_succ, Nat.mul_comm (10 ^ cs.length) 10, Nat.add_mul, Nat.mul_assoc,
    Nat.add_assoc]

theorem next_le (value : Nat) (c : Char) (cs : List Char) :
    value * 10 + digitValue c ≤ value * 10 ^ (c :: cs).length + ofDigits (c :: cs) := by
  have grows := Nat.le_mul_of_pos_right (value * 10 + digitValue c) (Nat.pow_pos (n := cs.length) (by decide : 0 < 10))
  rw [digits_next]
  omega

theorem magnitude_from_run (limit : Nat) (past : Fault) (value : Nat) (cs : List Char)
    (digits : ∀ c ∈ cs, c.isDigit = true) (fits : value * 10 ^ cs.length + ofDigits cs ≤ limit) :
    magnitudeFrom limit past value cs = .ok (value * 10 ^ cs.length + ofDigits cs) := by
  induction cs generalizing value with
  | nil =>
      rw [List.length_nil, Nat.pow_zero, Nat.mul_one]
      rfl
  | cons c cs ih =>
      have next := Nat.le_trans (next_le value c cs) fits
      rw [digits_next] at fits ⊢
      rw [magnitudeFrom, if_pos (digits c List.mem_cons_self)]
      dsimp only
      rw [if_pos next]
      exact ih _ (fun d member => digits d (List.mem_cons_of_mem c member)) fits

theorem magnitude_natural (limit : Nat) (past : Fault) (n : Nat) (fits : n ≤ limit) :
    magnitude limit past (naturalChars n) = .ok n := by
  have value : 0 * 10 ^ (naturalChars n).length + ofDigits (naturalChars n) = n := by
    rw [Nat.zero_mul, Nat.zero_add, of_natural]
  have run := magnitude_from_run limit past 0 (naturalChars n) (natural_digits n) (by rw [value]; exact fits)
  obtain ⟨c, cs, opens⟩ := List.exists_cons_of_ne_nil (natural_not_nil n)
  rw [value, opens] at run
  rw [opens]
  exact run

theorem read_natural (limit n : Nat) (fits : n ≤ limit) : readNatural limit (naturalChars n) = .ok n := by
  unfold readNatural
  split
  · rename_i empty
    exact absurd empty (natural_not_nil n)
  · rename_i plus
    exact absurd plus (natural_unsigned n '+' _ rfl)
  · exact magnitude_natural limit _ n fits

theorem read_integer (below above : Nat) (n : Int) (first : -(below : Int) ≤ n) (last : n ≤ above) :
    readInteger below above (chars n) = .ok n := by
  cases n with
  | ofNat n =>
      have read := magnitude_natural above .tooLarge n (Int.ofNat_le.mp last)
      unfold readInteger chars
      split
      · rename_i empty
        exact absurd empty (natural_not_nil n)
      · rename_i minus
        exact absurd minus (natural_unsigned n '-' _ rfl)
      · rename_i plus
        exact absurd plus (natural_unsigned n '+' _ rfl)
      · rw [read]
        rfl
  | negSucc n =>
      have read := magnitude_natural below .tooSmall (n + 1) (by omega)
      rw [chars, readInteger, read]
      rfl

theorem read_int64 (n : Int64) : readInt64 (chars n.toInt) = .ok n := by
  have first := n.le_toInt
  have last := n.toInt_lt
  rw [readInt64, read_integer _ _ n.toInt (by unfold Int64.size; omega) (by unfold Int64.size; omega)]
  exact congrArg Except.ok (Int64.ofInt_toInt n)

theorem read_uint64 (n : UInt64) : readUInt64 (naturalChars n.toNat) = .ok n := by
  have last := n.toNat_lt
  rw [readUInt64, read_natural _ n.toNat (by unfold UInt64.size; omega)]
  exact congrArg Except.ok UInt64.ofNat_toNat

end Integer

namespace Decimal

def Progress.after (p : Progress) : List Char → Progress
  | [] => p
  | c :: cs => (p.push (p.coefficient * 10 + Integer.digitValue c)).after cs

namespace Progress

theorem after_point (p : Progress) (cs : List Char) : (p.after cs).point = p.point := by
  induction cs generalizing p with
  | nil => rfl
  | cons c cs ih => exact ih _

theorem after_coefficient (p : Progress) (cs : List Char) :
    (p.after cs).coefficient = p.coefficient * 10 ^ cs.length + Integer.ofDigits cs := by
  induction cs generalizing p with
  | nil => exact (Nat.mul_one _).symm
  | cons c cs ih =>
      rw [Integer.digits_next]
      exact ih _

theorem after_digit (p : Progress) (cs : List Char) (some : p.digit = true ∨ cs ≠ []) : (p.after cs).digit = true := by
  induction cs generalizing p with
  | nil => exact some.resolve_right (fun other => other rfl)
  | cons c cs ih => exact ih _ (.inl rfl)

-- There is room for so many digits: before the point for any number of them, and behind it up to the last place.
def Room (p : Progress) (count : Nat) : Prop := if p.point then p.scale + count ≤ maxScale else p.scale = 0

theorem room_lt (p : Progress) (count : Nat) (room : p.Room (count + 1)) : p.scale < maxScale := by
  have places : 0 < maxScale := by decide
  unfold Room at room
  split at room <;> omega

theorem room_next (p : Progress) (count next : Nat) (room : p.Room (count + 1)) : (p.push next).Room count := by
  cases point : p.point with
  | false => simp [Room, push, point]
  | true =>
      simp only [Room, point, if_true] at room
      simp only [Room, push, point, if_true]
      omega

theorem after_scale (p : Progress) (cs : List Char) (room : p.Room cs.length) :
    (p.after cs).scale = if p.point then p.scale + cs.length else 0 := by
  induction cs generalizing p with
  | nil =>
      cases point : p.point with
      | false => simpa [Room, point, after] using room
      | true => rfl
  | cons c cs ih =>
      rw [after, ih _ (p.room_next _ _ room)]
      cases point : p.point with
      | false => simp [push, point]
      | true =>
          simp only [push, point, if_true, List.length_cons]
          omega

end Progress

theorem digits_step (p : Progress) (c : Char) (rest : List Char) (digit : c.isDigit = true) (room : p.scale < maxScale)
    (fits : p.coefficient * 10 + Integer.digitValue c < limit) :
    digitsFrom p (c :: rest) = digitsFrom (p.push (p.coefficient * 10 + Integer.digitValue c)) rest := by
  have plain : c ≠ '_' := by
    rintro rfl
    cases digit
  have inside : (p.scale == maxScale) = false := beq_false_of_ne (Nat.ne_of_lt room)
  rw [digitsFrom]
  simp [plain, inside, digit, fits]

theorem digits_run (p : Progress) (cs rest : List Char) (digits : ∀ c ∈ cs, c.isDigit = true) (room : p.Room cs.length)
    (fits : p.coefficient * 10 ^ cs.length + Integer.ofDigits cs < limit) :
    digitsFrom p (cs ++ rest) = digitsFrom (p.after cs) rest := by
  induction cs generalizing p with
  | nil => rfl
  | cons c cs ih =>
      have next := Nat.lt_of_le_of_lt (Integer.next_le p.coefficient c cs) fits
      rw [Integer.digits_next] at fits
      rw [List.cons_append, digits_step p c _ (digits c List.mem_cons_self) (p.room_lt _ room) next]
      exact ih _ (fun d member => digits d (List.mem_cons_of_mem c member)) (p.room_next _ _ room) fits

theorem digits_point (p : Progress) (rest : List Char) (whole : p.point = false) (room : p.scale < maxScale) :
    digitsFrom p ('.' :: rest) = digitsFrom { p with point := true } rest := by
  have inside : (p.scale == maxScale) = false := beq_false_of_ne (Nat.ne_of_lt room)
  rw [digitsFrom]
  simp [inside, whole]

theorem digits_end (p : Progress) (some : p.digit = true) : digitsFrom p [] = .ok (p.coefficient, p.scale) := by
  rw [digitsFrom, if_pos some]

section Magnitudes

variable (d : Decimal)

theorem fraction_digits : ∀ c ∈ d.fraction, c.isDigit = true := by
  intro c member
  exact Integer.padded_digits _ _ c (List.mem_of_mem_drop member)

theorem parts_value : Integer.ofDigits d.whole * 10 ^ d.scale + Integer.ofDigits d.fraction = d.coefficient := by
  have joined : d.whole ++ d.fraction = Integer.paddedChars (d.scale + 1) d.coefficient := List.take_append_drop _ _
  rw [← d.fraction_length, ← Integer.of_digits_append, joined, Integer.of_padded]

theorem whole_read : (start.after d.whole).point = false ∧ (start.after d.whole).digit = true ∧
    (start.after d.whole).coefficient = Integer.ofDigits d.whole ∧ (start.after d.whole).scale = 0 := by
  refine ⟨start.after_point _, start.after_digit _ (.inr d.whole_some), ?_, start.after_scale _ rfl⟩
  rw [start.after_coefficient]
  exact (congrArg (· + Integer.ofDigits d.whole) (Nat.zero_mul _)).trans (Nat.zero_add _)

theorem fraction_read (p : Progress) (point : p.point = true) (some : p.digit = true)
    (front : p.coefficient = Integer.ofDigits d.whole) (scale : p.scale = 0) :
    digitsFrom p d.fraction = .ok (d.coefficient, d.scale) := by
  have room : p.Room d.fraction.length := by
    rw [Progress.Room, if_pos point, scale, d.fraction_length, Nat.zero_add]
    exact d.scale_le
  have total : (p.after d.fraction).coefficient = d.coefficient := by
    rw [p.after_coefficient, d.fraction_length, front, d.parts_value]
  have last : (p.after d.fraction).scale = d.scale := by
    rw [p.after_scale _ room, if_pos point, scale, d.fraction_length, Nat.zero_add]
  have small : p.coefficient * 10 ^ d.fraction.length + Integer.ofDigits d.fraction < limit := by
    rw [← p.after_coefficient, total]
    exact d.coefficient_lt
  have read := digits_run p d.fraction [] d.fraction_digits room small
  rw [List.append_nil] at read
  rw [read, digits_end _ (p.after_digit _ (.inl some)), total, last]

theorem magnitude_read : digitsFrom start (d.whole ++ d.point) = .ok (d.coefficient, d.scale) := by
  have value := d.parts_value
  have small := d.coefficient_lt
  have grows := Nat.le_mul_of_pos_right (Integer.ofDigits d.whole) (Nat.pow_pos (n := d.scale) (by decide : 0 < 10))
  obtain ⟨open_, some, front, scale⟩ := d.whole_read
  rw [digits_run start d.whole d.point d.whole_digits rfl (by rw [← start.after_coefficient, front]; omega)]
  unfold point
  by_cases none : d.scale = 0
  · have empty : d.fraction = [] := List.eq_nil_of_length_eq_zero (d.fraction_length.trans none)
    rw [none, empty] at value
    rw [if_pos none, digits_end _ some, front, scale, none, ← value]
    exact congrArg (fun n => Except.ok (n, 0)) (Nat.mul_one _).symm
  · rw [if_neg none, digits_point _ _ open_ (by rw [scale]; decide)]
    exact d.fraction_read _ rfl some front scale

def unsignedZero : Decimal := { d with negative := d.negative && d.coefficient != 0 }

theorem of_digits_own (negative : Bool) (own : d.negative = negative) :
    ofDigits negative (.ok (d.coefficient, d.scale)) = .ok d.unsignedZero := by
  have made : make? negative d.coefficient d.scale = some d.unsignedZero := by
    unfold make?
    rw [dif_pos ⟨d.coefficient_lt, d.scale_le⟩, ← own]
    rfl
  rw [ofDigits, Except.bind]
  simp only [made]

theorem read_plain_chars : readPlain d.chars = .ok d.unsignedZero := by
  rw [d.chars_shape]
  cases own : d.negative with
  | true =>
      rw [← d.of_digits_own true own, ← d.magnitude_read]
      rfl
  | false =>
      rw [if_neg (by decide), List.nil_append]
      unfold readPlain
      split
      · rename_i empty
        exact absurd (List.append_eq_nil_iff.mp empty).1 d.whole_some
      · rename_i minus
        exact absurd minus (d.magnitude_unsigned '-' _ rfl)
      · rename_i plus
        exact absurd plus (d.magnitude_unsigned '+' _ rfl)
      · rw [d.magnitude_read, d.of_digits_own false own]

theorem read_decimal_chars : Decimal.read d.chars = .ok d.unsignedZero := by
  rw [Decimal.read, d.read_plain_chars]

end Magnitudes

section Signs

variable (d : Decimal)

def Significant : Prop := d.negative = true → d.coefficient ≠ 0

theorem significant_made (negative : Bool) (coefficient scale : Nat)
    (made : make? negative coefficient scale = some d) : d.Significant := by
  unfold make? at made
  split at made
  · cases made
    intro signed
    simp only [Bool.and_eq_true, bne_iff_ne] at signed
    exact signed.2
  · cases made

theorem significant_digits (negative : Bool) (digits : Except ReadFault (Nat × Nat))
    (read : ofDigits negative digits = .ok d) : d.Significant := by
  obtain ⟨⟨coefficient, scale⟩, _, made⟩ := (except_bind_ok_iff _ _ _).mp read
  dsimp only at made
  split at made
  · rename_i found
    cases made
    exact significant_made _ _ _ _ found
  · cases made

theorem significant_plain (cs : List Char) (read : readPlain cs = .ok d) : d.Significant := by
  unfold readPlain at read
  split at read
  · cases read
  · exact significant_digits d _ _ read
  · exact significant_digits d _ _ read
  · exact significant_digits d _ _ read

def lastZero (negative : Bool) : Decimal := ⟨negative, 0, maxScale, by decide, by decide⟩

theorem scaled_up (power : Nat) (front : Decimal) (significant : front.Significant)
    (scaled : scaleUp front power = .ok d) : d.Significant := by
  unfold scaleUp at scaled
  split at scaled
  · cases scaled
    exact significant
  · split at scaled
    · cases scaled
    · split at scaled
      · rename_i made
        cases scaled
        exact significant_made _ _ _ _ made
      · cases scaled

theorem scaled_down (power : Nat) (front : Decimal) (significant : front.Significant)
    (scaled : scaleDown front power = .ok d) : d.Significant ∨ d = lastZero true := by
  unfold scaleDown at scaled
  split at scaled
  · cases scaled
  · split at scaled
    · cases scaled
      exact .inl significant
    · cases scaled
      by_cases kept : Rounding.halfUp front.coefficient (10 ^ (front.scale + power - maxScale)) = 0
      · cases front.negative with
        | false =>
            refine .inl ?_
            intro signed
            cases signed
        | true =>
            refine .inr ?_
            simp [lastZero, kept]
      · exact .inl fun _ => kept

-- Only where a power of ten takes the last digit away is a zero read with a sign.
theorem read_signed (cs : List Char) (read : Decimal.read cs = .ok d) : d.Significant ∨ d = lastZero true := by
  unfold Decimal.read at read
  split at read
  · rename_i plain
    cases read
    exact .inl (significant_plain _ cs plain)
  · unfold readScientific at read
    split at read
    · cases read
    · obtain ⟨front, plain, rest⟩ := (except_bind_ok_iff _ _ _).mp read
      have significant := significant_plain front _ plain
      split at rest
      · obtain ⟨power, _, scaled⟩ := (except_bind_ok_iff _ _ _).mp rest
        exact scaled_down d power front significant scaled
      · obtain ⟨power, _, scaled⟩ := (except_bind_ok_iff _ _ _).mp rest
        exact .inl (scaled_up d power front significant scaled)

theorem unsigned_significant (significant : d.Significant) : d.unsignedZero = d := by
  have kept : (d.negative && d.coefficient != 0) = d.negative := by
    cases signed : d.negative with
    | false => rfl
    | true => simpa using significant signed
  unfold unsignedZero
  rw [kept]

theorem same_unsigned : d.same d.unsignedZero = true := by
  have value : d.unsignedZero.signed = d.signed := by
    by_cases zero : d.coefficient = 0
    · simp [signed, unsignedZero, zero]
    · rw [unsigned_significant d fun _ => zero]
  have equal : d.number = d.unsignedZero.number := by
    rw [number, number, value]
    rfl
  rw [Decimal.same, compare_number, compare_eq_iff_eq.mpr equal]
  rfl

end Signs

end Decimal

namespace Guid

theorem hex_visible (c : Char) (hex : (hexValue? c).isSome = true) : 33 ≤ c.toNat ∧ c.toNat ≤ 126 := by
  unfold hexValue? at hex
  split at hex
  · rename_i digit
    simp only [Char.isDigit, Bool.and_eq_true, decide_eq_true_eq, ge_iff_le, UInt32.le_iff_toNat_le] at digit
    exact ⟨Nat.le_trans (by decide) digit.1, Nat.le_trans digit.2 (by decide)⟩
  split at hex
  · rename_i lower
    exact ⟨Nat.le_trans (by decide) lower.1, Nat.le_trans lower.2 (by decide)⟩
  split at hex
  · rename_i upper
    exact ⟨Nat.le_trans (by decide) upper.1, Nat.le_trans upper.2 (by decide)⟩
  · cases hex

theorem bytes_narrow (cs : List Char) (narrow : ∀ c ∈ cs, c.toNat ≤ 126) : bytes cs = cs.length := by
  have step : ∀ size, cs.foldl (fun size c => size + c.utf8Size) size = size + cs.length := by
    induction cs with
    | nil => exact fun _ => rfl
    | cons c cs ih =>
        intro size
        have small : c.val ≤ 0x7f := Nat.le_trans (narrow c List.mem_cons_self) (by decide)
        have one : c.utf8Size = 1 := if_pos small
        rw [List.foldl_cons, one, ih fun d member => narrow d (List.mem_cons_of_mem c member), List.length_cons]
        omega
  rw [bytes, step, Nat.zero_add]

section Groups

variable (g : Guid)

theorem hex_chars_hex : ∀ c ∈ g.hexChars, (hexValue? c).isSome = true :=
  hex_from_hex 0 _ g.hexChars g.hex_chars_read

theorem chars_sorts : ∀ c ∈ g.chars, c = '-' ∨ (hexValue? c).isSome = true := by
  have group : ∀ start count, ∀ c ∈ (g.hexChars.drop start).take count, c = '-' ∨ (hexValue? c).isSome = true := by
    intro start count c member
    exact .inr (g.hex_chars_hex c (List.mem_of_mem_drop (List.mem_of_mem_take member)))
  have last : ∀ c ∈ g.hexChars.drop 20, c = '-' ∨ (hexValue? c).isSome = true := by
    intro c member
    exact .inr (g.hex_chars_hex c (List.mem_of_mem_drop member))
  simp only [chars, List.forall_mem_append, List.forall_mem_cons]
  exact ⟨⟨⟨⟨group 0 8, .inl trivial, group 8 4⟩, .inl trivial, group 12 4⟩, .inl trivial, group 16 4⟩, .inl trivial, last⟩

theorem chars_visible (c : Char) (member : c ∈ g.chars) : 33 ≤ c.toNat ∧ c.toNat ≤ 126 := by
  rcases g.chars_sorts c member with rfl | hex
  · decide
  · exact hex_visible c hex

theorem chars_length : g.chars.length = groupedSize := by
  simp [chars, g.hex_chars_length, groupedSize]

theorem split_chars : g.chars.splitOn '-' = [g.hexChars.take 8, (g.hexChars.drop 8).take 4, (g.hexChars.drop 12).take 4,
    (g.hexChars.drop 16).take 4, g.hexChars.drop 20] := by
  have free : '-' ∉ g.hexChars := by
    intro member
    have hex := g.hex_chars_hex '-' member
    cases hex
  have group : ∀ start count, '-' ∉ (g.hexChars.drop start).take count :=
    fun start count member => free (List.mem_of_mem_drop (List.mem_of_mem_take member))
  have first : '-' ∉ g.hexChars.take 8 := group 0 8
  have last : '-' ∉ g.hexChars.drop 20 := fun member => free (List.mem_of_mem_drop member)
  simp only [chars, List.append_assoc, List.cons_append]
  rw [List.splitOn_append_cons_self_of_not_mem first, List.splitOn_append_cons_self_of_not_mem (group 8 4),
    List.splitOn_append_cons_self_of_not_mem (group 12 4), List.splitOn_append_cons_self_of_not_mem (group 16 4),
    List.splitOn_eq_singleton last]

theorem of_groups_chars : ofGroups? g.chars = some g := by
  have lengths : (g.chars.splitOn '-').map List.length = groupLengths := by
    rw [g.split_chars]
    simp [g.hex_chars_length, groupLengths]
  have joined : ∀ start count, (g.hexChars.drop start).take count ++ g.hexChars.drop (start + count) =
      g.hexChars.drop start := by
    intro start count
    rw [← List.drop_drop, List.take_append_drop]
  have digits : (g.chars.splitOn '-').flatten = g.hexChars := by
    rw [g.split_chars]
    simp only [List.flatten_cons, List.flatten_nil, List.append_nil]
    rw [joined 16 4, joined 12 4, joined 8 4, List.take_append_drop]
  have bits : BitVec.ofNat 128 g.bits.toNat = g.bits := BitVec.eq_of_toNat_eq (by simp)
  unfold ofGroups?
  dsimp only
  rw [if_pos lengths, digits, g.hex_chars_read, Option.map_some, bits]

theorem read_chars : Guid.read g.chars = .ok g := by
  have size : bytes g.chars = groupedSize :=
    (bytes_narrow _ fun c member => (g.chars_visible c member).2).trans g.chars_length
  unfold Guid.read
  dsimp only
  rw [size, if_neg (by decide), if_pos rfl, readGroups, g.of_groups_chars]

end Groups

end Guid

end TokenFilter
