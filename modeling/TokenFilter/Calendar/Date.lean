import TokenFilter.Integer

set_option autoImplicit false

namespace TokenFilter.Calendar

def isLeap (year : Int) : Bool := year % 4 == 0 && (year % 100 != 0 || year % 400 == 0)

def daysInMonth (year : Int) (month : Nat) : Nat :=
  match month with
  | 2 => if isLeap year then 29 else 28
  | 4 | 6 | 9 | 11 => 30
  | _ => 31

-- A day of any year, where a `Date` is one that a value can have.
structure Day where
  year : Int
  month : Nat
  day : Nat
deriving DecidableEq

namespace Day

def next (d : Day) : Day :=
  if d.day < daysInMonth d.year d.month then ⟨d.year, d.month, d.day + 1⟩
  else if d.month < 12 then ⟨d.year, d.month + 1, 1⟩
  else ⟨d.year + 1, 1, 1⟩

def previous (d : Day) : Day :=
  if 1 < d.day then ⟨d.year, d.month, d.day - 1⟩
  else if 1 < d.month then ⟨d.year, d.month - 1, daysInMonth d.year (d.month - 1)⟩
  else ⟨d.year - 1, 12, 31⟩

end Day

def firstYear : Int := -262143
def lastYear : Int := 262142

structure Date where
  year : Int
  month : Nat
  day : Nat
  year_ge : firstYear ≤ year
  year_le : year ≤ lastYear
  month_pos : 1 ≤ month
  month_le : month ≤ 12
  day_pos : 1 ≤ day
  day_le : day ≤ daysInMonth year month
deriving DecidableEq

namespace Date

def make? (year : Int) (month day : Nat) : Option Date :=
  if h : (firstYear ≤ year ∧ year ≤ lastYear) ∧ (1 ≤ month ∧ month ≤ 12) ∧
      1 ≤ day ∧ day ≤ daysInMonth year month then
    some ⟨year, month, day, h.1.1, h.1.2, h.2.1.1, h.2.1.2, h.2.2.1, h.2.2.2⟩
  else none

def place (d : Date) : Int := (d.year * 12 + (d.month - 1 : Nat)) * 31 + (d.day - 1 : Nat)

def toDay (d : Date) : Day := ⟨d.year, d.month, d.day⟩

protected def compare (a b : Date) : Ordering := Ord.compare a.place b.place

end Date

def Day.date? (d : Day) : Option Date := Date.make? d.year d.month d.day

def signChar (n : Int) : Char := if n < 0 then '-' else '+'

def yearChars (year : Int) : List Char :=
  if 0 ≤ year ∧ year ≤ 9999 then Integer.paddedChars 4 year.natAbs
  else signChar year :: Integer.paddedChars 4 year.natAbs

def Day.chars (d : Day) : List Char :=
  yearChars d.year ++ '-' :: Integer.paddedChars 2 d.month ++ '-' :: Integer.paddedChars 2 d.day

def Date.chars (d : Date) : List Char := d.toDay.chars

theorem daysInMonth_le (year : Int) (month : Nat) : daysInMonth year month ≤ 31 := by
  unfold daysInMonth
  split
  · split <;> omega
  all_goals omega

theorem Date.place_inj (a b : Date) (h : a.place = b.place) : a = b := by
  have ha := Nat.le_trans a.day_le (daysInMonth_le _ _)
  have hb := Nat.le_trans b.day_le (daysInMonth_le _ _)
  have := a.month_pos; have := a.month_le; have := a.day_pos
  have := b.month_pos; have := b.month_le; have := b.day_pos
  obtain ⟨ya, ma, da, _, _, _, _, _, _⟩ := a
  obtain ⟨yb, mb, db, _, _, _, _, _, _⟩ := b
  simp only [Date.place] at *
  simp only [Date.mk.injEq]
  omega

end TokenFilter.Calendar
