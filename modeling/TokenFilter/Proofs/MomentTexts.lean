import TokenFilter.Calendar.Reader
import TokenFilter.Proofs.ScalarTexts
import TokenFilter.Proofs.Trimming

set_option autoImplicit false

namespace TokenFilter

namespace Calendar

theorem digits_taken (least width n : Nat) (rest : List Char) (some : 0 < width) (fits : n < 10 ^ width)
    (enough : least ≤ width) :
    digits least (Option.some width) (Integer.paddedChars width n ++ rest) = .ok (n, rest) := by
  have length := Integer.padded_length width n some fits
  have found : ((Integer.paddedChars width n ++ rest).take width).takeWhile Char.isDigit =
      Integer.paddedChars width n := by
    rw [List.take_append_of_le_length (by omega), List.take_of_length_le (by omega)]
    exact List.takeWhile_eq_self_iff.mpr (Integer.padded_digits width n)
  unfold digits
  dsimp only
  rw [found, if_pos (by omega), Integer.of_padded, List.drop_left]

theorem digits_run (least width n : Nat) (rest : List Char) (enough : least ≤ width)
    (stops : Text.Stops Char.isDigit rest) :
    digits least none (Integer.paddedChars width n ++ rest) = .ok (n, rest) := by
  obtain ⟨found, _⟩ := Text.run_take Char.isDigit _ rest (Integer.padded_digits width n) stops
  have length : width ≤ (Integer.paddedChars width n).length := by
    unfold Integer.paddedChars
    rw [List.length_append, List.length_replicate]
    omega
  unfold digits
  dsimp only
  rw [found, if_pos (by omega), Integer.of_padded, List.drop_left]

def ReadsFields (item : Field → Item) : Prop :=
  ∀ r field n rest, n < 10 ^ field.width →
    (item field).read r (Integer.paddedChars field.width n ++ rest) = (set r n field).map fun r => (r, rest)

theorem width_pos (field : Field) : 0 < field.width := by
  cases field <;> decide

theorem fixed_reads : ReadsFields .fixed := by
  intro r field n rest fits
  change readFixed r field _ = _
  unfold readFixed
  rw [digits_taken _ _ n rest (width_pos field) fits (Nat.le_refl _)]
  cases outcome : set r n field <;> simp [bind, Except.bind, Except.map, outcome, pure, Except.pure]

theorem free_reads : ReadsFields .free := by
  intro r field n rest fits
  have opens := Text.opens_append _ _ rest (Integer.padded_opens field.width n)
  have trimmed : Text.trimLeft (Integer.paddedChars field.width n ++ rest) =
      Integer.paddedChars field.width n ++ rest := by
    obtain ⟨c, cs, shape, digit⟩ := opens
    rw [shape]
    exact Text.trim_left_fixed _ (Text.begins_cons c _ (Text.digit_solid c digit))
  change readFree r field _ = _
  unfold readFree
  rw [trimmed]
  split
  · rename_i minus
    exact absurd minus (Text.opens_other _ _ opens '-' _ rfl)
  · rename_i plus
    exact absurd plus (Text.opens_other _ _ opens '+' _ rfl)
  · rw [digits_taken _ _ n rest (width_pos _) fits (width_pos _)]
    cases outcome : set r n _ <;> simp [bind, Except.bind, Except.map, outcome, pure, Except.pure]

theorem set_year (r : Reading) (year : Int) (first : firstYear ≤ year) (last : year ≤ lastYear) :
    setYear r year = .ok { r with year := year } := by
  unfold firstYear at first
  unfold lastYear at last
  unfold setYear
  rw [if_pos (by omega)]

def ReadsYear (item : Field → Item) (year : Int) : Prop :=
  ∀ r rest, Text.Stops Char.isDigit rest →
    (item .year).read r (yearChars year ++ rest) = .ok ({ r with year := year }, rest)

section Years

variable (year : Int) (first : firstYear ≤ year) (last : year ≤ lastYear)
include first last

theorem plain_year (item : Field → Item) (reads : ReadsFields item) (plain : 0 ≤ year ∧ year ≤ 9999) :
    ReadsYear item year := by
  intro r rest _
  have digits := reads r .year year.natAbs rest (by change year.natAbs < 10 ^ 4; omega)
  have magnitude : (year.natAbs : Int) = year := by omega
  have filled : set r year.natAbs .year = .ok { r with year := year } := by
    change setYear r (year.natAbs : Int) = _
    rw [magnitude, set_year r year first last]
  rw [filled] at digits
  rw [year_plain year plain]
  exact digits

theorem free_year : ReadsYear .free year := by
  by_cases plain : 0 ≤ year ∧ year ≤ 9999
  · exact plain_year year first last .free free_reads plain
  intro r rest stops
  have digits := digits_run 1 4 year.natAbs rest (by decide) stops
  rw [year_signed year plain]
  change readFree r .year _ = _
  by_cases negative : year < 0
  · have sign : signChar year = '-' := if_pos negative
    have magnitude : -(year.natAbs : Int) = year := by omega
    have trimmed := Text.trim_left_fixed _
      (Text.begins_cons '-' (Integer.paddedChars 4 year.natAbs ++ rest) (by decide))
    rw [sign, List.cons_append]
    unfold readFree
    rw [trimmed]
    simp only [digits, bind, Except.bind, magnitude, set_year r year first last, pure, Except.pure]
  · have sign : signChar year = '+' := if_neg negative
    have magnitude : (year.natAbs : Int) = year := by omega
    have trimmed := Text.trim_left_fixed _
      (Text.begins_cons '+' (Integer.paddedChars 4 year.natAbs ++ rest) (by decide))
    rw [sign, List.cons_append]
    unfold readFree
    rw [trimmed]
    simp only [digits, bind, Except.bind, magnitude, set_year r year first last, pure, Except.pure]

end Years

def dateItems (item : Field → Item) : Pattern :=
  [item .year, .oneOf ['-'], item .month, .oneOf ['-'], item .day]

def timeItems (item : Field → Item) : Pattern :=
  [item .hour, .oneOf [':'], item .minute, .oneOf [':'], item .second, .fraction]

def Reading.onDay (r : Reading) (d : Date) : Reading := { r with year := d.year, month := d.month, day := d.day }

def Reading.atTime (r : Reading) (t : Time) : Reading :=
  { r with
    hour := t.second / 3600
    minute := t.second / 60 % 60
    second := t.second % 60 + t.nano / 1000000000
    nano := t.nano % 1000000000 }

theorem read_from_cons (r r' : Reading) (cs rest : List Char) (item : Item) (items : Pattern)
    (read : item.read r cs = .ok (r', rest)) :
    Pattern.readFrom r cs (item :: items) = Pattern.readFrom r' rest items := by
  rw [Pattern.readFrom, read]
  rfl

theorem read_one (r : Reading) (choices rest : List Char) (c : Char) (chosen : choices.contains c = true) :
    Item.read r (c :: rest) (.oneOf choices) = .ok (r, rest) := by
  rw [Item.read, readOneOf, if_pos chosen]
  rfl

section Fields

variable (item : Field → Item) (reads : ReadsFields item)
include reads

theorem read_two (r r' : Reading) (field : Field) (n : Nat) (rest : List Char) (two : field.width = 2)
    (fits : n < 100) (filled : set r n field = .ok r') :
    (item field).read r (Integer.paddedChars 2 n ++ rest) = .ok (r', rest) := by
  have read := reads r field n rest (by rw [two]; exact fits)
  rw [two, filled] at read
  exact read

theorem read_date_items (d : Date) (year : ReadsYear item d.year) (r : Reading) (rest : List Char) (items : Pattern) :
    Pattern.readFrom r (d.chars ++ rest) (dateItems item ++ items) = Pattern.readFrom (r.onDay d) rest items := by
  have days := Nat.le_trans d.day_le (daysInMonth_le _ _)
  have months := d.month_le
  have month : ∀ rest, (item .month).read { r with year := d.year } (Integer.paddedChars 2 d.month ++ rest) =
      .ok ({ r with year := d.year, month := d.month }, rest) := by
    intro rest
    exact read_two item reads _ _ .month d.month rest rfl (by omega) (if_pos ⟨d.month_pos, months⟩)
  have day : (item .day).read { r with year := d.year, month := d.month } (Integer.paddedChars 2 d.day ++ rest) =
      .ok (r.onDay d, rest) :=
    read_two item reads _ _ .day d.day rest rfl (by omega) (if_pos ⟨d.day_pos, days⟩)
  simp only [Date.chars, Day.chars, Date.toDay, dateItems, List.append_assoc, List.cons_append, List.nil_append]
  rw [read_from_cons _ _ _ _ _ _ (year r _ (Text.stops_cons _ _ _ rfl)),
    read_from_cons _ _ _ _ _ _ (read_one _ _ _ '-' rfl), read_from_cons _ _ _ _ _ _ (month _),
    read_from_cons _ _ _ _ _ _ (read_one _ _ _ '-' rfl), read_from_cons _ _ _ _ _ _ day]

end Fields

theorem digits_short (least most width n : Nat) (rest : List Char) (some : 0 < width) (fits : n < 10 ^ width)
    (enough : least ≤ width) (few : width ≤ most) (stops : Text.Stops Char.isDigit rest) :
    digits least (Option.some most) (Integer.paddedChars width n ++ rest) = .ok (n, rest) := by
  have length := Integer.padded_length width n some fits
  have cut : (Integer.paddedChars width n ++ rest).take most =
      Integer.paddedChars width n ++ rest.take (most - width) := by
    rw [List.take_append, List.take_of_length_le (by omega), length]
  have stopsCut : Text.Stops Char.isDigit (rest.take (most - width)) := by
    intro c first
    rw [List.head?_take] at first
    split at first
    · cases first
    · exact stops c first
  obtain ⟨found, _⟩ := Text.run_take Char.isDigit _ _ (Integer.padded_digits width n) stopsCut
  unfold digits
  dsimp only
  rw [cut, found, if_pos (by omega), Integer.of_padded, List.drop_left]

theorem read_fraction_digits (r : Reading) (width n : Nat) (rest : List Char) (some : 0 < width) (few : width ≤ 9)
    (fits : n < 10 ^ width) (stops : Text.Stops Text.isPointed rest) :
    readFraction r ('.' :: Integer.paddedChars width n ++ rest) =
      .ok ({ r with nano := n * 10 ^ (9 - width) }, rest) := by
  have length := Integer.padded_length width n some fits
  have after := Text.pointed_stops rest stops
  have read := digits_short 1 9 width n rest some fits some few after
  obtain ⟨_, dropped⟩ := Text.stops_take Char.isDigit rest after
  have count : (Integer.paddedChars width n ++ rest).length - rest.length = width := by
    rw [List.length_append]
    omega
  rw [List.cons_append]
  unfold readFraction
  simp only [read, bind, Except.bind, count, dropped, pure, Except.pure]

theorem read_fraction (r : Reading) (nano : Nat) (rest : List Char) (below : nano < 1000000000) (fresh : r.nano = 0)
    (stops : Text.Stops Text.isPointed rest) :
    readFraction r (Time.fractionChars nano ++ rest) = .ok ({ r with nano := nano }, rest) := by
  unfold Time.fractionChars
  by_cases none : nano = 0
  · have same : { r with nano := nano } = r := by
      rw [none, ← fresh]
    rw [if_pos none, same, List.nil_append]
    unfold readFraction
    split
    · rename_i more
      exact absurd rfl (Text.stops_pointless _ stops more)
    · rfl
  rw [if_neg none]
  by_cases three : nano % 1000000 = 0
  · have whole : nano / 1000000 * 10 ^ (9 - 3) = nano := by omega
    rw [if_pos three, read_fraction_digits r 3 _ rest (by decide) (by decide) (by omega) stops, whole]
  rw [if_neg three]
  by_cases six : nano % 1000 = 0
  · have whole : nano / 1000 * 10 ^ (9 - 6) = nano := by omega
    rw [if_pos six, read_fraction_digits r 6 _ rest (by decide) (by decide) (by omega) stops, whole]
  · have whole : nano * 10 ^ (9 - 9) = nano := by omega
    rw [if_neg six, read_fraction_digits r 9 _ rest (by decide) (by decide) (by omega) stops, whole]

theorem read_time_items (item : Field → Item) (reads : ReadsFields item) (t : Time) (r : Reading) (rest : List Char)
    (items : Pattern) (fresh : r.nano = 0) (stops : Text.Stops Text.isPointed rest) :
    Pattern.readFrom r (t.chars ++ rest) (timeItems item ++ items) = Pattern.readFrom (r.atTime t) rest items := by
  have seconds := t.second_lt
  have nanos := t.nano_lt
  simp only [Time.chars, Time.shownChars, Reading.atTime, timeItems, List.append_assoc, List.cons_append,
    List.nil_append]
  generalize hourEq : t.second / 3600 = h
  generalize minuteEq : t.second / 60 % 60 = m
  generalize secondEq : t.second % 60 + t.nano / 1000000000 = s
  generalize nanoEq : t.nano % 1000000000 = n
  have hour : ∀ rest, (item .hour).read r (Integer.paddedChars 2 h ++ rest) = .ok ({ r with hour := h }, rest) := by
    intro rest
    exact read_two item reads _ _ .hour h rest rfl (by omega) (if_pos (by omega))
  have minute : ∀ rest, (item .minute).read { r with hour := h } (Integer.paddedChars 2 m ++ rest) =
      .ok ({ r with hour := h, minute := m }, rest) := by
    intro rest
    exact read_two item reads _ _ .minute m rest rfl (by omega) (if_pos (by omega))
  have second : ∀ rest, (item .second).read { r with hour := h, minute := m } (Integer.paddedChars 2 s ++ rest) =
      .ok ({ r with hour := h, minute := m, second := s }, rest) := by
    intro rest
    exact read_two item reads _ _ .second s rest rfl (by omega) (if_pos (by omega))
  have fraction := read_fraction { r with hour := h, minute := m, second := s } n rest (by omega) fresh stops
  rw [read_from_cons _ _ _ _ _ _ (hour _), read_from_cons _ _ _ _ _ _ (read_one _ _ _ ':' rfl),
    read_from_cons _ _ _ _ _ _ (minute _), read_from_cons _ _ _ _ _ _ (read_one _ _ _ ':' rfl),
    read_from_cons _ _ _ _ _ _ (second _)]
  exact read_from_cons _ _ _ _ _ _ fraction

theorem sign_cases (n : Int) : signChar n = '-' ∨ signChar n = '+' := by
  unfold signChar
  split
  · exact .inl rfl
  · exact .inr rfl

section Offsets

variable (r : Reading) (offset : Int) (few : offset.natAbs < 86400) (minutes : offset % 60 = 0)
include few minutes

theorem read_offset (between : List Char → Except Fault (List Char))
    (passes : ∀ n, between (':' :: Integer.paddedChars 2 n) = .ok (Integer.paddedChars 2 n)) :
    readOffset r between (OffsetDateTime.offsetChars offset) = .ok ({ r with offset := offset / 60 }, []) := by
  have whole : (offset.natAbs + 30) / 60 = offset.natAbs / 60 := by omega
  have hours : ∀ rest, digits 2 (some 2) (Integer.paddedChars 2 (offset.natAbs / 60 / 60) ++ rest) =
      .ok (offset.natAbs / 60 / 60, rest) :=
    fun rest => digits_taken 2 2 _ rest (by decide) (by omega) (by decide)
  have minutes : digits 2 (some 2) (Integer.paddedChars 2 (offset.natAbs / 60 % 60)) =
      .ok (offset.natAbs / 60 % 60, []) := by
    have taken := digits_taken 2 2 (offset.natAbs / 60 % 60) [] (by decide) (by omega) (by decide)
    rwa [List.append_nil] at taken
  have total : offset.natAbs / 60 / 60 * 60 + offset.natAbs / 60 % 60 = offset.natAbs / 60 := by omega
  have signed : (if decide (offset < 0) = true then -((offset.natAbs / 60 : Nat) : Int) else (offset.natAbs / 60 : Nat)) =
      offset / 60 := by
    simp only [decide_eq_true_eq]
    omega
  have sign : ∀ rest, readSign (signChar offset :: rest) = .ok (decide (offset < 0), rest) := by
    intro rest
    unfold signChar
    by_cases negative : offset < 0
    · rw [if_pos negative, decide_eq_true negative]
      rfl
    · rw [if_neg negative, decide_eq_false negative]
      rfl
  unfold readOffset OffsetDateTime.offsetChars
  rw [whole, List.cons_append, sign]
  simp only [bind, Except.bind, hours, passes, minutes, total]
  rw [if_pos (by omega)]
  simp only [pure, Except.pure, signed]

theorem read_strict_offset :
    Item.read r (OffsetDateTime.offsetChars offset) .strictOffset = .ok ({ r with offset := offset / 60 }, []) := by
  have unlettered : ∀ letter rest, letter.isAlpha = true → OffsetDateTime.offsetChars offset ≠ letter :: rest := by
    intro letter rest alpha same
    have sign : signChar offset = letter := (List.cons.inj same).1
    rcases sign_cases offset with eq | eq <;> rw [← sign, eq] at alpha <;> cases alpha
  change readStrictOffset r _ = _
  unfold readStrictOffset
  split
  · rename_i zulu
    exact absurd zulu (unlettered 'Z' _ rfl)
  · rename_i zulu
    exact absurd zulu (unlettered 'z' _ rfl)
  · exact read_offset r offset few minutes (readOneOf [':']) fun _ => rfl

theorem read_loose_offset :
    Item.read r (OffsetDateTime.offsetChars offset) .looseOffset = .ok ({ r with offset := offset / 60 }, []) := by
  have begins : Text.Begins (OffsetDateTime.offsetChars offset) := by
    refine Text.begins_cons (signChar offset) _ ?_
    rcases sign_cases offset with eq | eq <;> rw [eq] <;> decide
  change readOffset r (fun rest => .ok (rest.dropWhile isOffsetMark)) (Text.trimLeft _) = _
  rw [Text.trim_left_fixed _ begins]
  refine read_offset r offset few minutes _ ?_
  intro n
  obtain ⟨c, cs, opens, digit⟩ := Integer.padded_opens 2 n
  have unmarked : isOffsetMark c = false := by
    rw [isOffsetMark, Text.digit_solid c digit, Bool.or_false, beq_eq_false_iff_ne]
    rintro rfl
    cases digit
  rw [opens]
  simp [unmarked, show isOffsetMark ':' = true from rfl]

end Offsets

theorem day_value (r : Reading) (d : Date) : (r.onDay d).date = .ok d := by
  have made : Date.make? d.year d.month d.day = some d := day_date d
  rw [Reading.date, Reading.onDay, made]

theorem moment_value (r : Reading) (d : DateTime) (written : d.time.isWritten = true) :
    ((r.onDay d.date).atTime d.time).dateTime = .ok d := by
  have date : ((r.onDay d.date).atTime d.time).date = .ok d.date := day_value r d.date
  have time := make_time d.time written
  rw [Reading.dateTime, date, Except.bind]
  simp only [Reading.atTime, time]

theorem zoned_value (r : Reading) (d : OffsetDateTime) (zoned : DateTime) (minutes : d.offset % 60 = 0)
    (shown : d.zoned? = some zoned) (written : zoned.time.isWritten = true) :
    Reading.offsetDateTime { (r.onDay zoned.date).atTime zoned.time with offset := d.offset / 60 } = .ok d := by
  have value : Reading.dateTime { (r.onDay zoned.date).atTime zoned.time with offset := d.offset / 60 } = .ok zoned :=
    moment_value r zoned written
  have whole : d.offset / 60 * 60 = d.offset := by omega
  rw [Reading.offsetDateTime, value, Except.bind]
  simp only [whole, zoned_make d zoned shown]

theorem read_date_chars (d : Date) : readDate d.chars = .ok d := by
  have year := free_year d.year d.year_ge d.year_le
  have whole := read_date_items .free free_reads d year {} [] []
  rw [List.append_nil, List.append_nil] at whole
  change Pattern.readFrom {} d.chars (dateItems .free) = .ok (Reading.onDay {} d) at whole
  rw [readDate, Pattern.read]
  change (Pattern.readFrom {} d.chars (dateItems .free)).bind Reading.date = _
  rw [whole]
  exact day_value {} d

theorem read_moment_items (d : DateTime) (rest : List Char) (items : Pattern)
    (stops : Text.Stops Text.isPointed rest) :
    Pattern.readFrom {} (d.chars ++ rest) (dateItems .free ++ (.oneOf ['T'] :: (timeItems .free ++ items))) =
      Pattern.readFrom ((Reading.onDay {} d.date).atTime d.time) rest items := by
  have year := free_year d.date.year d.date.year_ge d.date.year_le
  rw [DateTime.chars, List.append_assoc, List.cons_append, read_date_items .free free_reads d.date year,
    read_from_cons _ _ _ _ _ _ (read_one _ _ _ 'T' rfl)]
  exact read_time_items .free free_reads d.time _ rest items rfl stops

theorem read_date_time_chars (d : DateTime) (written : d.time.isWritten = true) : readDateTime d.chars = .ok d := by
  have whole := read_moment_items d [] [] (Text.stops_nil _)
  rw [List.append_nil, List.append_nil] at whole
  have first : (datePattern ++ letterT ++ secondPattern).read d.chars = .ok ((Reading.onDay {} d.date).atTime d.time) :=
    whole
  have found : firstReading Reading.dateTime dateTimePatterns d.chars = some d := by
    rw [firstReading, dateTimePatterns, List.findSome?_cons, first, Except.bind, moment_value _ d written]
    rfl
  rw [readDateTime, found]

section Zones

variable (d : OffsetDateTime) (zoned : DateTime) (minutes : d.offset % 60 = 0) (shown : d.zoned? = some zoned)
include shown

-- The sign stands where the first digit of the year would have to.
theorem read_timestamp_signed (signed : ¬(0 ≤ zoned.date.year ∧ zoned.date.year ≤ 9999)) :
    ∃ fault, readTimestamp d.chars = .error fault := by
  have other : (signChar zoned.date.year).isDigit = false := by
    rcases sign_cases zoned.date.year with eq | eq <;> rw [eq] <;> rfl
  have first : ∀ rest, readFixed {} .year (signChar zoned.date.year :: rest) = .error .invalid := by
    intro rest
    have none : digits 4 (some 4) (signChar zoned.date.year :: rest) = .error .invalid := by
      simp [digits, other]
    unfold readFixed
    change (digits 4 (some 4) _).bind _ = _
    rw [none]
    rfl
  refine ⟨.invalid, ?_⟩
  rw [OffsetDateTime.chars, zoned_chars d zoned shown, DateTime.chars, Date.chars, Day.chars, Date.toDay,
    year_signed _ signed]
  simp only [List.cons_append]
  rw [readTimestamp, Pattern.read, timestampPattern, Pattern.readFrom]
  change ((readFixed {} .year _).bind _).bind _ = _
  rw [first]
  rfl

variable (written : zoned.time.isWritten = true)
include minutes written

theorem read_timestamp_chars (plain : 0 ≤ zoned.date.year ∧ zoned.date.year ≤ 9999) :
    readTimestamp d.chars = .ok d := by
  have year := plain_year _ zoned.date.year_ge zoned.date.year_le .fixed fixed_reads plain
  have offset :=
    read_strict_offset ((Reading.onDay {} zoned.date).atTime zoned.time) d.offset d.offset_lt minutes
  have whole : timestampPattern.read d.chars =
      .ok { (Reading.onDay {} zoned.date).atTime zoned.time with offset := d.offset / 60 } := by
    change Pattern.readFrom {} d.chars
      (dateItems .fixed ++ (.oneOf ['T', 't', ' '] :: (timeItems .fixed ++ [.strictOffset]))) = _
    rw [OffsetDateTime.chars, zoned_chars d zoned shown, DateTime.chars, List.append_assoc, List.cons_append,
      read_date_items .fixed fixed_reads zoned.date year, read_from_cons _ _ _ _ _ _ (read_one _ _ _ 'T' rfl),
      read_time_items .fixed fixed_reads zoned.time _ _ _ rfl (offset_stops d.offset),
      read_from_cons _ _ _ _ _ _ offset]
    rfl
  rw [readTimestamp, whole]
  exact zoned_value {} d zoned minutes shown written

end Zones

theorem read_offset_date_time_chars (d : OffsetDateTime) (written : d.isWritten = true) :
    readOffsetDateTime d.chars = .ok d := by
  obtain ⟨minutes, zoned, shown, time⟩ := (written_iff d).mp written
  by_cases plain : 0 ≤ zoned.date.year ∧ zoned.date.year ≤ 9999
  · rw [readOffsetDateTime, read_timestamp_chars d zoned minutes shown time plain]
  obtain ⟨fault, refused⟩ := read_timestamp_signed d zoned shown plain
  have offset := read_loose_offset ((Reading.onDay {} zoned.date).atTime zoned.time) d.offset d.offset_lt minutes
  have whole : Pattern.read (datePattern ++ letterT ++ secondPattern ++ [.looseOffset]) d.chars =
      .ok { (Reading.onDay {} zoned.date).atTime zoned.time with offset := d.offset / 60 } := by
    change Pattern.readFrom {} d.chars (dateItems .free ++ (.oneOf ['T'] :: (timeItems .free ++ [.looseOffset]))) = _
    rw [OffsetDateTime.chars, zoned_chars d zoned shown, read_moment_items zoned _ _ (offset_stops d.offset),
      read_from_cons _ _ _ _ _ _ offset]
    rfl
  have found : firstReading Reading.offsetDateTime offsetPatterns d.chars = some d := by
    rw [firstReading, offsetPatterns, List.findSome?_cons, whole, Except.bind, zoned_value _ d zoned minutes shown time]
    rfl
  rw [readOffsetDateTime, refused, found]

section Solid

theorem padded_solid (width n : Nat) : ∀ c ∈ Integer.paddedChars width n, Text.isBlank c = false := by
  intro c member
  exact Text.digit_solid c (Integer.padded_digits width n c member)

theorem pointed_solid (c : Char) (pointed : Text.isPointed c = true) : Text.isBlank c = false := by
  rcases Bool.or_eq_true_iff.mp pointed with digit | point
  · exact Text.digit_solid c digit
  · rw [eq_of_beq point]
    decide

theorem sign_solid (n : Int) : Text.isBlank (signChar n) = false := by
  rcases sign_cases n with eq | eq <;> rw [eq] <;> decide

theorem day_solid (d : Day) : ∀ c ∈ d.chars, Text.isBlank c = false := by
  have year : ∀ c ∈ yearChars d.year, Text.isBlank c = false := by
    by_cases plain : 0 ≤ d.year ∧ d.year ≤ 9999
    · rw [year_plain d.year plain]
      exact padded_solid 4 _
    · rw [year_signed d.year plain]
      exact List.forall_mem_cons.mpr ⟨sign_solid d.year, padded_solid 4 _⟩
  have hyphen : Text.isBlank '-' = false := by decide
  simp only [Day.chars, List.forall_mem_append, List.forall_mem_cons]
  exact ⟨⟨year, hyphen, padded_solid 2 _⟩, hyphen, padded_solid 2 _⟩

theorem date_solid (d : Date) : ∀ c ∈ d.chars, Text.isBlank c = false := day_solid d.toDay

theorem time_solid (t : Time) : ∀ c ∈ t.chars, Text.isBlank c = false := by
  have fraction : ∀ c ∈ Time.fractionChars (t.nano % 1000000000), Text.isBlank c = false := by
    intro c member
    exact pointed_solid c (fraction_sorts _ c member)
  have colon : Text.isBlank ':' = false := by decide
  simp only [Time.chars, Time.shownChars, List.forall_mem_append, List.forall_mem_cons]
  exact ⟨⟨⟨padded_solid 2 _, colon, padded_solid 2 _⟩, colon, padded_solid 2 _⟩, fraction⟩

theorem date_time_solid (d : DateTime) : ∀ c ∈ d.chars, Text.isBlank c = false :=
  List.forall_mem_append.mpr ⟨date_solid d.date, List.forall_mem_cons.mpr ⟨by decide, time_solid d.time⟩⟩

theorem offset_date_time_solid (d : OffsetDateTime) : ∀ c ∈ d.chars, Text.isBlank c = false := by
  have colon : Text.isBlank ':' = false := by decide
  simp only [OffsetDateTime.chars, OffsetDateTime.clockChars, OffsetDateTime.offsetChars, List.forall_mem_append,
    List.forall_mem_cons]
  exact ⟨⟨day_solid _, by decide, time_solid _⟩, ⟨sign_solid d.offset, padded_solid 2 _⟩, colon, padded_solid 2 _⟩

end Solid

end Calendar

end TokenFilter
