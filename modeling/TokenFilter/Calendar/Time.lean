import TokenFilter.Calendar.Date

set_option autoImplicit false

namespace TokenFilter.Calendar

-- The second of the day, and the nanoseconds in it. A leap second belongs to the second before it, whose
-- nanoseconds go on past a thousand million.
structure Time where
  second : Nat
  nano : Nat
  second_lt : second < 86400
  nano_lt : nano < 2000000000
deriving DecidableEq

namespace Time

def make? (hour minute second nano : Nat) : Option Time :=
  if h : hour < 24 ∧ minute < 60 ∧ second ≤ 60 ∧ nano < 1000000000 then
    some ⟨(hour * 60 + minute) * 60 + min second 59, second / 60 * 1000000000 + nano, by omega, by omega⟩
  else none

def midnight : Time := ⟨0, 0, by decide, by decide⟩

def place (t : Time) : Nat := t.second * 2000000000 + t.nano

def perDay : Nat := 86400 * 2000000000

def fractionChars (nano : Nat) : List Char :=
  if nano = 0 then []
  else if nano % 1000000 = 0 then '.' :: Integer.paddedChars 3 (nano / 1000000)
  else if nano % 1000 = 0 then '.' :: Integer.paddedChars 6 (nano / 1000)
  else '.' :: Integer.paddedChars 9 nano

def shownChars (hour minute second nano : Nat) : List Char :=
  Integer.paddedChars 2 hour ++ ':' :: Integer.paddedChars 2 minute ++
    ':' :: Integer.paddedChars 2 second ++ fractionChars nano

def chars (t : Time) : List Char :=
  shownChars (t.second / 3600) (t.second / 60 % 60) (t.second % 60 + t.nano / 1000000000) (t.nano % 1000000000)

end Time

structure DateTime where
  date : Date
  time : Time
deriving DecidableEq

namespace DateTime

def place (d : DateTime) : Int := d.date.place * Time.perDay + d.time.place

protected def compare (a b : DateTime) : Ordering := Ord.compare a.place b.place

def chars (d : DateTime) : List Char := d.date.chars ++ 'T' :: d.time.chars

-- The day and the time that come so many seconds later, for less than a day.
def shift (d : DateTime) (seconds : Int) : Day × Time :=
  let total := d.time.second + seconds
  let day :=
    if total < 0 then d.date.toDay.previous
    else if total < 86400 then d.date.toDay
    else d.date.toDay.next
  (day, ⟨(total % 86400).toNat, d.time.nano, by omega, d.time.nano_lt⟩)

def shift? (d : DateTime) (seconds : Int) : Option DateTime :=
  (d.shift seconds).1.date?.map fun date => ⟨date, (d.shift seconds).2⟩

end DateTime

-- A moment, and by how many seconds the clocks of a place are ahead of universal time.
structure OffsetDateTime where
  universal : DateTime
  offset : Int
  offset_lt : offset.natAbs < 86400
deriving DecidableEq

namespace OffsetDateTime

def make? (zoned : DateTime) (offset : Int) : Option OffsetDateTime :=
  if h : offset.natAbs < 86400 then
    (zoned.shift? (-offset)).map fun universal => ⟨universal, offset, h⟩
  else none

def zoned? (d : OffsetDateTime) : Option DateTime := d.universal.shift? d.offset

protected def compare (a b : OffsetDateTime) : Ordering := a.universal.compare b.universal

def same (a b : OffsetDateTime) : Bool := a.compare b == .eq

def offsetChars (offset : Int) : List Char :=
  let minutes := (offset.natAbs + 30) / 60
  signChar offset :: Integer.paddedChars 2 (minutes / 60) ++ ':' :: Integer.paddedChars 2 (minutes % 60)

def fullOffsetChars (offset : Int) : List Char :=
  let minutes := offset.natAbs / 60
  let seconds := offset.natAbs % 60
  signChar offset :: Integer.paddedChars 2 (minutes / 60) ++ ':' :: Integer.paddedChars 2 (minutes % 60) ++
    if seconds = 0 then [] else ':' :: Integer.paddedChars 2 seconds

-- The clocks may show a day past the ends of the calendar, which has a text all the same.
def clockChars (d : OffsetDateTime) : List Char :=
  (d.universal.shift d.offset).1.chars ++ 'T' :: (d.universal.shift d.offset).2.chars

def chars (d : OffsetDateTime) : List Char := d.clockChars ++ offsetChars d.offset

def zuluChars (d : OffsetDateTime) : List Char :=
  d.clockChars ++ if d.offset = 0 then ['Z'] else offsetChars d.offset

def namedChars (d : OffsetDateTime) : List Char := d.clockChars ++ fullOffsetChars d.offset

end OffsetDateTime

theorem Time.place_lt (t : Time) : t.place < perDay := by
  have := t.second_lt; have := t.nano_lt
  unfold place perDay
  omega

theorem Time.place_inj (a b : Time) (h : a.place = b.place) : a = b := by
  have := a.nano_lt
  have := b.nano_lt
  obtain ⟨sa, na, _, _⟩ := a
  obtain ⟨sb, nb, _, _⟩ := b
  simp only [Time.place] at *
  simp only [Time.mk.injEq]
  omega

theorem DateTime.place_inj (a b : DateTime) (h : a.place = b.place) : a = b := by
  have early := a.time.place_lt
  have early' := b.time.place_lt
  obtain ⟨da, ta⟩ := a
  obtain ⟨db, tb⟩ := b
  simp only [DateTime.place, Time.perDay] at *
  have days : da.place = db.place := by omega
  have times : ta.place = tb.place := by omega
  rw [da.place_inj db days, ta.place_inj tb times]

end TokenFilter.Calendar
