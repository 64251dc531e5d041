import TokenFilter.Decimal.Basic
import TokenFilter.Proofs.Clocks
import TokenFilter.Proofs.Numerals

set_option autoImplicit false

namespace TokenFilter

namespace Calendar

theorem year_plain (year : Int) (plain : 0 ≤ year ∧ year ≤ 9999) :
    yearChars year = Integer.paddedChars 4 year.natAbs := if_pos plain

theorem year_signed (year : Int) (signed : ¬(0 ≤ year ∧ year ≤ 9999)) :
    yearChars year = signChar year :: Integer.paddedChars 4 year.natAbs := if_neg signed

theorem sign_inj (a b : Int) (signs : signChar a = signChar b) (magnitudes : a.natAbs = b.natAbs) : a = b := by
  unfold signChar at signs
  by_cases below : a < 0 <;> by_cases below' : b < 0 <;> simp [below, below'] at signs <;> omega

theorem padded_unsigned (width n : Nat) (year : Int) (rest others : List Char)
    (same : Integer.paddedChars width n ++ rest = signChar year :: others) : False := by
  have opens := Text.opens_append _ _ rest (Integer.padded_opens width n)
  refine Text.opens_other _ _ opens (signChar year) others ?_ same
  unfold signChar
  split <;> rfl

theorem year_then (a b : Int) (rest others : List Char) (stops : Text.Stops Char.isDigit rest)
    (stops' : Text.Stops Char.isDigit others) (same : yearChars a ++ rest = yearChars b ++ others) :
    a = b ∧ rest = others := by
  by_cases plain : 0 ≤ a ∧ a ≤ 9999
  · rw [year_plain a plain] at same
    by_cases plain' : 0 ≤ b ∧ b ≤ 9999
    · rw [year_plain b plain'] at same
      obtain ⟨magnitudes, rest⟩ := Integer.padded_run 4 _ _ rest others stops stops' same
      exact ⟨by omega, rest⟩
    · rw [year_signed b plain'] at same
      exact (padded_unsigned 4 _ b _ _ same).elim
  · rw [year_signed a plain] at same
    by_cases plain' : 0 ≤ b ∧ b ≤ 9999
    · rw [year_plain b plain'] at same
      exact (padded_unsigned 4 _ a _ _ same.symm).elim
    · rw [year_signed b plain'] at same
      obtain ⟨signs, same⟩ := List.cons.inj same
      obtain ⟨magnitudes, rest⟩ := Integer.padded_run 4 _ _ rest others stops stops' same
      exact ⟨sign_inj a b signs magnitudes, rest⟩

theorem date_then (a b : Date) (rest others : List Char) (same : a.chars ++ rest = b.chars ++ others) :
    a = b ∧ rest = others := by
  have days := Nat.le_trans a.day_le (daysInMonth_le _ _)
  have days' := Nat.le_trans b.day_le (daysInMonth_le _ _)
  have months := a.month_le
  have months' := b.month_le
  simp only [Date.chars, Day.chars, Date.toDay, List.append_assoc, List.cons_append] at same
  obtain ⟨year, same⟩ := year_then a.year b.year _ _ (Text.stops_cons _ _ _ rfl) (Text.stops_cons _ _ _ rfl) same
  obtain ⟨month, same⟩ :=
    Integer.padded_then 2 a.month b.month _ _ (by decide) (by omega) (by omega) (List.cons.inj same).2
  obtain ⟨day, rest⟩ := Integer.padded_then 2 a.day b.day _ _ (by decide) (by omega) (by omega) (List.cons.inj same).2
  obtain ⟨ya, ma, da, _, _, _, _, _, _⟩ := a
  obtain ⟨yb, mb, db, _, _, _, _, _, _⟩ := b
  cases year
  cases month
  cases day
  exact ⟨rfl, rest⟩

def fractionNanos (cs : List Char) : Nat := Integer.ofDigits (cs.drop 1) * 10 ^ (10 - cs.length)

theorem fraction_nanos (nano : Nat) (below : nano < 1000000000) : fractionNanos (Time.fractionChars nano) = nano := by
  unfold Time.fractionChars
  by_cases none : nano = 0
  · rw [if_pos none, none]
    rfl
  rw [if_neg none]
  by_cases three : nano % 1000000 = 0
  · rw [if_pos three, fractionNanos, List.length_cons, Integer.padded_length 3 _ (by decide) (by omega), List.drop_one,
      List.tail_cons, Integer.of_padded]
    omega
  rw [if_neg three]
  by_cases six : nano % 1000 = 0
  · rw [if_pos six, fractionNanos, List.length_cons, Integer.padded_length 6 _ (by decide) (by omega), List.drop_one,
      List.tail_cons, Integer.of_padded]
    omega
  · rw [if_neg six, fractionNanos, List.length_cons, Integer.padded_length 9 _ (by decide) (by omega), List.drop_one,
      List.tail_cons, Integer.of_padded]
    omega

theorem fraction_sorts (nano : Nat) : ∀ c ∈ Time.fractionChars nano, Text.isPointed c = true := by
  have padded : ∀ width n, ∀ c ∈ '.' :: Integer.paddedChars width n, Text.isPointed c = true := by
    intro width n c member
    rcases List.mem_cons.mp member with rfl | digit
    · rfl
    · rw [Text.isPointed, Integer.padded_digits width n c digit, Bool.true_or]
  unfold Time.fractionChars
  split
  · intro c member
    cases member
  split
  · exact padded 3 _
  split
  · exact padded 6 _
  · exact padded 9 _

theorem time_then (a b : Time) (written : a.isWritten = true) (written' : b.isWritten = true) (rest others : List Char)
    (stops : Text.Stops Text.isPointed rest) (stops' : Text.Stops Text.isPointed others)
    (same : a.chars ++ rest = b.chars ++ others) : a = b ∧ rest = others := by
  have seconds := a.second_lt
  have seconds' := b.second_lt
  have nanos := a.nano_lt
  have nanos' := b.nano_lt
  simp only [Time.chars, Time.shownChars, List.append_assoc, List.cons_append] at same
  obtain ⟨hour, same⟩ := Integer.padded_then 2 _ _ _ _ (by decide) (by omega) (by omega) same
  obtain ⟨minute, same⟩ := Integer.padded_then 2 _ _ _ _ (by decide) (by omega) (by omega) (List.cons.inj same).2
  obtain ⟨second, same⟩ := Integer.padded_then 2 _ _ _ _ (by decide) (by omega) (by omega) (List.cons.inj same).2
  obtain ⟨fractions, rest⟩ :=
    Text.run_unique Text.isPointed _ _ rest others (fraction_sorts _) (fraction_sorts _) stops stops' same
  have nano : a.nano % 1000000000 = b.nano % 1000000000 := by
    rw [← fraction_nanos (a.nano % 1000000000) (by omega), fractions, fraction_nanos _ (by omega)]
  have made := make_time a written
  rw [hour, minute, second, nano, make_time b written'] at made
  exact ⟨(Option.some.inj made).symm, rest⟩

theorem date_time_then (a b : DateTime) (written : a.time.isWritten = true) (written' : b.time.isWritten = true)
    (rest others : List Char) (stops : Text.Stops Text.isPointed rest) (stops' : Text.Stops Text.isPointed others)
    (same : a.chars ++ rest = b.chars ++ others) : a = b ∧ rest = others := by
  simp only [DateTime.chars, List.append_assoc, List.cons_append] at same
  obtain ⟨date, same⟩ := date_then a.date b.date _ _ same
  obtain ⟨time, rest⟩ := time_then a.time b.time written written' rest others stops stops' (List.cons.inj same).2
  obtain ⟨da, ta⟩ := a
  obtain ⟨db, tb⟩ := b
  cases date
  cases time
  exact ⟨rfl, rest⟩

theorem date_inj (a b : Date) (same : a.chars = b.chars) : a = b := (date_then a b [] [] (by rw [same])).1

theorem date_time_inj (a b : DateTime) (written : a.time.isWritten = true) (written' : b.time.isWritten = true)
    (same : a.chars = b.chars) : a = b :=
  (date_time_then a b written written' [] [] (Text.stops_nil _) (Text.stops_nil _) (by rw [same])).1

section Offsets

theorem offset_stops (offset : Int) : Text.Stops Text.isPointed (OffsetDateTime.offsetChars offset) := by
  refine Text.stops_cons _ _ _ ?_
  unfold signChar
  split <;> rfl

theorem zone_stops (offset : Int) :
    Text.Stops Text.isPointed (if offset = 0 then ['Z'] else OffsetDateTime.offsetChars offset) := by
  split
  · exact Text.stops_cons _ _ _ rfl
  · exact offset_stops offset

theorem offset_not_zulu (offset : Int) : OffsetDateTime.offsetChars offset ≠ ['Z'] := by
  intro same
  have sign : signChar offset = 'Z' := (List.cons.inj same).1
  unfold signChar at sign
  split at sign <;> exact absurd sign (by decide)

section Minutes

variable (a b : Int) (few : a.natAbs < 86400) (few' : b.natAbs < 86400) (minutes : a % 60 = 0) (minutes' : b % 60 = 0)
include few few' minutes minutes'

theorem offset_inj (same : OffsetDateTime.offsetChars a = OffsetDateTime.offsetChars b) : a = b := by
  simp only [OffsetDateTime.offsetChars, List.cons_append] at same
  obtain ⟨signs, same⟩ := List.cons.inj same
  obtain ⟨hour, same⟩ := Integer.padded_then 2 _ _ _ _ (by decide) (by omega) (by omega) same
  have minute := Integer.padded_inj 2 _ _ (List.cons.inj same).2
  exact sign_inj a b signs (by omega)

theorem zone_inj (same : (if a = 0 then ['Z'] else OffsetDateTime.offsetChars a) =
      if b = 0 then ['Z'] else OffsetDateTime.offsetChars b) : a = b := by
  by_cases zero : a = 0 <;> by_cases zero' : b = 0
  · rw [zero, zero']
  · rw [if_pos zero, if_neg zero'] at same
    exact absurd same.symm (offset_not_zulu b)
  · rw [if_neg zero, if_pos zero'] at same
    exact absurd same (offset_not_zulu a)
  · rw [if_neg zero, if_neg zero'] at same
    exact offset_inj a b few few' minutes minutes' same

end Minutes

variable (a b : OffsetDateTime) (written : a.isWritten = true) (written' : b.isWritten = true)
include written written'

-- What the clocks show and their offset, however that is written, give the moment.
theorem moment_inj (zone : Int → List Char) (stops : ∀ offset, Text.Stops Text.isPointed (zone offset))
    (told : ∀ x y : Int, x.natAbs < 86400 → y.natAbs < 86400 → x % 60 = 0 → y % 60 = 0 → zone x = zone y → x = y)
    (same : a.clockChars ++ zone a.offset = b.clockChars ++ zone b.offset) : a = b := by
  obtain ⟨minutes, zoned, shown, time⟩ := (written_iff a).mp written
  obtain ⟨minutes', zoned', shown', time'⟩ := (written_iff b).mp written'
  rw [zoned_chars a zoned shown, zoned_chars b zoned' shown'] at same
  obtain ⟨rfl, zones⟩ := date_time_then zoned zoned' time time' _ _ (stops _) (stops _) same
  have offset := told _ _ a.offset_lt b.offset_lt minutes minutes' zones
  have made := zoned_make a zoned shown
  rw [offset, zoned_make b zoned shown'] at made
  exact (Option.some.inj made).symm

theorem offset_date_time_inj (same : a.chars = b.chars) : a = b :=
  moment_inj a b written written' _ offset_stops offset_inj same

theorem zulu_inj (same : a.zuluChars = b.zuluChars) : a = b :=
  moment_inj a b written written' (fun offset => if offset = 0 then ['Z'] else OffsetDateTime.offsetChars offset)
    zone_stops zone_inj same

-- The seconds of an offset are rounded away, so that these two moments show alike.
example :
    let day : Date := ⟨2024, 1, 2, by decide, by decide, by decide, by decide, by decide, by decide⟩
    let first : OffsetDateTime := ⟨⟨day, ⟨43200, 0, by decide, by decide⟩⟩, 20, by decide⟩
    let second : OffsetDateTime := ⟨⟨day, ⟨43210, 0, by decide, by decide⟩⟩, 10, by decide⟩
    first.zuluChars = second.zuluChars ∧ first ≠ second := by
  decide +kernel

end Offsets

end Calendar

namespace Decimal

def digits (d : Decimal) : List Char := Integer.paddedChars (d.scale + 1) d.coefficient

def whole (d : Decimal) : List Char := d.digits.take (d.digits.length - d.scale)

def fraction (d : Decimal) : List Char := d.digits.drop (d.digits.length - d.scale)

def point (d : Decimal) : List Char := if d.scale = 0 then [] else '.' :: d.fraction

theorem many_digits (d : Decimal) : d.scale < d.digits.length := by
  unfold digits Integer.paddedChars
  rw [List.length_append, List.length_replicate]
  omega

theorem fraction_length (d : Decimal) : d.fraction.length = d.scale := by
  have many := d.many_digits
  unfold fraction
  rw [List.length_drop]
  omega

theorem whole_digits (d : Decimal) : ∀ c ∈ d.whole, c.isDigit = true := by
  intro c member
  exact Integer.padded_digits _ _ c (List.mem_of_mem_take member)

theorem point_stops (d : Decimal) : Text.Stops Char.isDigit d.point := by
  unfold point
  split
  · exact Text.stops_nil _
  · exact Text.stops_cons _ _ _ rfl

theorem chars_shape (d : Decimal) : d.chars = (if d.negative then ['-'] else []) ++ (d.whole ++ d.point) := by
  have magnitude : (if d.scale = 0 then d.whole else d.whole ++ '.' :: d.fraction) = d.whole ++ d.point := by
    unfold point
    split
    · rw [List.append_nil]
    · rfl
  rw [← magnitude]
  cases negative : d.negative <;> simp [chars, negative, whole, fraction, digits]

theorem point_inj (a b : Decimal) (same : a.point = b.point) : a.scale = b.scale ∧ a.fraction = b.fraction := by
  have empty : ∀ d : Decimal, d.scale = 0 → d.fraction = [] := by
    intro d zero
    exact List.eq_nil_of_length_eq_zero (d.fraction_length.trans zero)
  unfold point at same
  by_cases zero : a.scale = 0 <;> by_cases zero' : b.scale = 0
  · exact ⟨zero.trans zero'.symm, (empty a zero).trans (empty b zero').symm⟩
  · rw [if_pos zero, if_neg zero'] at same
    cases same
  · rw [if_neg zero, if_pos zero'] at same
    cases same
  · rw [if_neg zero, if_neg zero'] at same
    have fractions := (List.cons.inj same).2
    exact ⟨by rw [← a.fraction_length, fractions, b.fraction_length], fractions⟩

theorem magnitude_inj (a b : Decimal) (same : a.whole ++ a.point = b.whole ++ b.point) :
    a.coefficient = b.coefficient ∧ a.scale = b.scale := by
  obtain ⟨wholes, points⟩ := Text.run_unique Char.isDigit _ _ _ _ a.whole_digits b.whole_digits a.point_stops
    b.point_stops same
  obtain ⟨scales, fractions⟩ := point_inj a b points
  have joined : ∀ d : Decimal, d.whole ++ d.fraction = d.digits := fun d => List.take_append_drop _ _
  refine ⟨?_, scales⟩
  rw [← Integer.of_padded (a.scale + 1) a.coefficient, ← Integer.of_padded (b.scale + 1) b.coefficient]
  exact congrArg Integer.ofDigits (by rw [← digits, ← digits, ← joined, ← joined, wholes, fractions])

theorem whole_some (d : Decimal) : d.whole ≠ [] := by
  have many := d.many_digits
  intro empty
  have length := congrArg List.length empty
  rw [whole, List.length_take, List.length_nil] at length
  omega

theorem magnitude_opens (d : Decimal) : Text.Opens Char.isDigit (d.whole ++ d.point) :=
  Text.opens_append _ _ _ (Text.run_opens _ _ d.whole_digits d.whole_some)

theorem magnitude_unsigned (d : Decimal) (sign : Char) (cs : List Char) (other : sign.isDigit = false) :
    d.whole ++ d.point ≠ sign :: cs := Text.opens_other _ _ d.magnitude_opens sign cs other

theorem text_inj (a b : Decimal) (same : a.chars = b.chars) : a = b := by
  rw [chars_shape, chars_shape] at same
  obtain ⟨na, ca, sa, la, ka⟩ := a
  obtain ⟨nb, cb, sb, lb, kb⟩ := b
  cases na <;> cases nb
  · obtain ⟨rfl, rfl⟩ := magnitude_inj _ _ same
    rfl
  · exact absurd same (magnitude_unsigned _ '-' _ rfl)
  · exact absurd same.symm (magnitude_unsigned _ '-' _ rfl)
  · obtain ⟨rfl, rfl⟩ := magnitude_inj _ _ (List.cons.inj same).2
    rfl

end Decimal

namespace Guid

theorem hex_inj (a b : Guid) (same : a.hexChars = b.hexChars) : a = b := by
  have numbers := congrArg (hexFrom? 0) same
  rw [hex_chars_read, hex_chars_read] at numbers
  obtain ⟨x⟩ := a
  obtain ⟨y⟩ := b
  exact congrArg Guid.mk (BitVec.eq_of_toNat_eq (Option.some.inj numbers))

theorem group_unique (count : Nat) (xs ys rest others : List Char) (lengths : xs.length = ys.length)
    (same : xs.take count ++ '-' :: rest = ys.take count ++ '-' :: others) :
    xs.take count = ys.take count ∧ rest = others := by
  obtain ⟨groups, rest⟩ := List.append_inj same (by rw [List.length_take, List.length_take, lengths])
  exact ⟨groups, (List.cons.inj rest).2⟩

theorem drop_unique (start count : Nat) (xs ys : List Char)
    (front : (xs.drop start).take count = (ys.drop start).take count)
    (back : xs.drop (start + count) = ys.drop (start + count)) : xs.drop start = ys.drop start := by
  rw [← List.take_append_drop count (xs.drop start), front, List.drop_drop, back, ← List.drop_drop,
    List.take_append_drop]

theorem groups_inj (a b : Guid) (same : a.chars = b.chars) : a = b := by
  have lengths : ∀ count, (a.hexChars.drop count).length = (b.hexChars.drop count).length := by
    intro count
    rw [List.length_drop, List.length_drop, a.hex_chars_length, b.hex_chars_length]
  simp only [chars, List.append_assoc, List.cons_append] at same
  obtain ⟨first, same⟩ := group_unique 8 _ _ _ _ (lengths 0) same
  obtain ⟨second, same⟩ := group_unique 4 _ _ _ _ (lengths 8) same
  obtain ⟨third, same⟩ := group_unique 4 _ _ _ _ (lengths 12) same
  obtain ⟨fourth, fifth⟩ := group_unique 4 _ _ _ _ (lengths 16) same
  have from16 := drop_unique 16 4 _ _ fourth fifth
  have from12 := drop_unique 12 4 _ _ third from16
  have from8 := drop_unique 8 4 _ _ second from12
  exact hex_inj a b (drop_unique 0 8 _ _ first from8)

end Guid

end TokenFilter
