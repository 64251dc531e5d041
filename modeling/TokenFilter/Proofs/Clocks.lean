import TokenFilter.Calendar.Reader
import TokenFilter.Proofs.Outcome

/-
Moments and the clocks that show them. What clocks show tells the moment, and a text tells what they show where offsets
are of whole minutes and leap seconds end a minute, which is so of all that is read.
-/

set_option autoImplicit false

namespace TokenFilter

namespace Calendar

-- No leap second, or one that is written as the sixtieth of its minute.
def Time.isWritten (t : Time) : Bool := t.nano < 1000000000 || t.second % 60 == 59

-- An offset of whole minutes, and clocks that show a day of the calendar.
def OffsetDateTime.isWritten (d : OffsetDateTime) : Bool :=
  d.offset % 60 == 0 && d.zoned?.any fun zoned => zoned.time.isWritten

section Days

theorem day_date (d : Date) : d.toDay.date? = some d := by
  unfold Day.date? Date.make?
  exact dif_pos ⟨⟨d.year_ge, d.year_le⟩, ⟨d.month_pos, d.month_le⟩, d.day_pos, d.day_le⟩

theorem date_day (day : Day) (d : Date) (made : day.date? = some d) : d.toDay = day := by
  unfold Day.date? Date.make? at made
  split at made
  · cases made
    rfl
  · cases made

theorem next_previous (d : Date) : d.toDay.previous.next = d.toDay := by
  obtain ⟨year, month, day, _, _, monthPos, monthLe, dayPos, dayLe⟩ := d
  change (Day.previous ⟨year, month, day⟩).next = ⟨year, month, day⟩
  rw [Day.previous]
  by_cases later : 1 < day
  · have within : day - 1 < daysInMonth year month := by omega
    rw [if_pos later, Day.next, if_pos within, Nat.sub_add_cancel dayPos]
  obtain rfl : day = 1 := by omega
  rw [if_neg later]
  by_cases after : 1 < month
  · have early : month - 1 < 12 := by omega
    rw [if_pos after, Day.next, if_neg (Nat.lt_irrefl _), if_pos early, Nat.sub_add_cancel monthPos]
  · obtain rfl : month = 1 := by omega
    have turned : Day.next ⟨year - 1, 12, 31⟩ = ⟨year - 1 + 1, 1, 1⟩ := rfl
    rw [if_neg after, turned, Int.sub_add_cancel]

theorem previous_next (d : Date) : d.toDay.next.previous = d.toDay := by
  obtain ⟨year, month, day, _, _, monthPos, monthLe, dayPos, dayLe⟩ := d
  change (Day.next ⟨year, month, day⟩).previous = ⟨year, month, day⟩
  rw [Day.next]
  by_cases within : day < daysInMonth year month
  · have later : 1 < day + 1 := by omega
    rw [if_pos within, Day.previous, if_pos later, Nat.add_sub_cancel]
  obtain rfl : day = daysInMonth year month := by omega
  rw [if_neg within]
  by_cases early : month < 12
  · have after : 1 < month + 1 := by omega
    rw [if_pos early, Day.previous, if_neg (Nat.lt_irrefl 1), if_pos after, Nat.add_sub_cancel]
  · obtain rfl : month = 12 := by omega
    have turned : Day.previous ⟨year + 1, 1, 1⟩ = ⟨year + 1 - 1, 12, 31⟩ := rfl
    rw [if_neg early, turned, Int.add_sub_cancel]
    rfl

end Days

section Shifts

variable (a b : DateTime) (seconds : Int)

theorem shift_some : a.shift? seconds = some b ↔ (a.shift seconds).1 = b.date.toDay ∧ (a.shift seconds).2 = b.time := by
  unfold DateTime.shift?
  constructor
  · intro shifted
    obtain ⟨date, made, rfl⟩ := Option.map_eq_some_iff.mp shifted
    exact ⟨(date_day _ date made).symm, rfl⟩
  · rintro ⟨day, time⟩
    rw [day, day_date, time]
    rfl

theorem shift_back (few : -86400 < seconds ∧ seconds < 86400) (shifted : a.shift? seconds = some b) :
    b.shift? (-seconds) = some a := by
  rw [shift_some] at shifted ⊢
  obtain ⟨day, time⟩ := shifted
  obtain ⟨least, most⟩ := few
  obtain ⟨date, ⟨second, nano, second_lt, nano_lt⟩⟩ := a
  have moved : b.time.second = ((second + seconds) % 86400).toNat := by rw [← time]; rfl
  have same : b.time.nano = nano := by rw [← time]; rfl
  have clock : (b.shift (-seconds)).2 = ⟨second, nano, second_lt, nano_lt⟩ := by
    simp only [DateTime.shift, moved, same, Time.mk.injEq, and_true]
    omega
  refine ⟨?_, clock⟩
  simp only [DateTime.shift] at day ⊢
  rw [moved]
  by_cases before : (second : Int) + seconds < 0
  · rw [if_pos before] at day
    rw [if_neg (by omega), if_neg (by omega), ← day]
    exact next_previous date
  rw [if_neg before] at day
  by_cases within : (second : Int) + seconds < 86400
  · rw [if_pos within] at day
    rw [if_neg (by omega), if_pos (by omega)]
    exact day.symm
  · rw [if_neg within] at day
    rw [if_pos (by omega), ← day]
    exact previous_next date

theorem shift_written (minutes : seconds % 60 = 0) (shifted : a.shift? seconds = some b) :
    b.time.isWritten = a.time.isWritten := by
  obtain ⟨_, time⟩ := (shift_some a b seconds).mp shifted
  have second : ((a.time.second + seconds) % 86400).toNat % 60 = a.time.second % 60 := by omega
  rw [← time]
  change (decide (a.time.nano < 1000000000) || ((a.time.second + seconds) % 86400).toNat % 60 == 59) = _
  rw [second]
  rfl

end Shifts

section Clocks

theorem zoned_make (d : OffsetDateTime) (zoned : DateTime) (shown : d.zoned? = some zoned) :
    OffsetDateTime.make? zoned d.offset = some d := by
  have few := d.offset_lt
  have back := shift_back d.universal zoned d.offset ⟨by omega, by omega⟩ shown
  rw [OffsetDateTime.make?, dif_pos d.offset_lt, back]
  rfl

theorem make_zoned (zoned : DateTime) (offset : Int) (d : OffsetDateTime)
    (made : OffsetDateTime.make? zoned offset = some d) : d.zoned? = some zoned ∧ d.offset = offset := by
  unfold OffsetDateTime.make? at made
  split at made
  · rename_i few
    obtain ⟨universal, shifted, rfl⟩ := Option.map_eq_some_iff.mp made
    have back := shift_back zoned universal (-offset) ⟨by omega, by omega⟩ shifted
    rw [Int.neg_neg] at back
    exact ⟨back, rfl⟩
  · cases made

theorem zoned_chars (d : OffsetDateTime) (zoned : DateTime) (shown : d.zoned? = some zoned) :
    d.clockChars = zoned.chars := by
  obtain ⟨day, time⟩ := (shift_some _ _ _).mp shown
  rw [OffsetDateTime.clockChars, day, time]
  rfl

theorem written_iff (d : OffsetDateTime) :
    d.isWritten = true ↔ d.offset % 60 = 0 ∧ ∃ zoned, d.zoned? = some zoned ∧ zoned.time.isWritten = true := by
  simp [OffsetDateTime.isWritten, Option.any_eq_true]

theorem universal_written (d : OffsetDateTime) (written : d.isWritten = true) :
    d.universal.time.isWritten = true := by
  obtain ⟨minutes, zoned, shown, time⟩ := (written_iff d).mp written
  rw [← shift_written _ _ _ minutes shown]
  exact time

end Clocks

section Readings

theorem make_time (t : Time) (written : t.isWritten = true) :
    Time.make? (t.second / 3600) (t.second / 60 % 60) (t.second % 60 + t.nano / 1000000000) (t.nano % 1000000000) =
      some t := by
  have second := t.second_lt
  have nano := t.nano_lt
  simp only [Time.isWritten, Bool.or_eq_true, decide_eq_true_eq, beq_iff_eq] at written
  unfold Time.make?
  rw [dif_pos (by omega)]
  obtain ⟨second, nano, _, _⟩ := t
  simp only [Option.some.injEq, Time.mk.injEq] at *
  omega

theorem time_made (hour minute second nano : Nat) (t : Time) (made : Time.make? hour minute second nano = some t) :
    t.isWritten = true := by
  unfold Time.make? at made
  split at made
  · cases made
    simp only [Time.isWritten, Bool.or_eq_true, decide_eq_true_eq, beq_iff_eq]
    omega
  · cases made

theorem value_written (r : Reading) (d : DateTime) (value : r.dateTime = .ok d) : d.time.isWritten = true := by
  obtain ⟨date, _, time⟩ := (except_bind_ok_iff _ _ _).mp value
  split at time
  · rename_i made
    cases time
    exact time_made _ _ _ _ _ made
  · cases time

theorem made_written (zoned : DateTime) (minutes : Int) (d : OffsetDateTime) (time : zoned.time.isWritten = true)
    (made : OffsetDateTime.make? zoned (minutes * 60) = some d) : d.isWritten = true := by
  obtain ⟨shown, offset⟩ := make_zoned _ _ _ made
  exact (written_iff d).mpr ⟨by omega, zoned, shown, time⟩

theorem offset_value_written (r : Reading) (d : OffsetDateTime) (value : r.offsetDateTime = .ok d) :
    d.isWritten = true := by
  obtain ⟨zoned, time, whole⟩ := (except_bind_ok_iff _ _ _).mp value
  split at whole
  · rename_i made
    cases whole
    exact made_written zoned r.offset _ (value_written r zoned time) made
  · cases whole

theorem timestamp_written (cs : List Char) (d : OffsetDateTime) (read : readTimestamp cs = .ok d) :
    d.isWritten = true := by
  obtain ⟨r, _, value⟩ := (except_bind_ok_iff _ _ _).mp read
  exact offset_value_written r d value

theorem first_value {α : Type} (value : Reading → Except Fault α) (patterns : List Pattern) (cs : List Char) (a : α)
    (read : firstReading value patterns cs = some a) : ∃ r, value r = .ok a := by
  obtain ⟨pattern, _, found⟩ := List.exists_of_findSome?_eq_some read
  cases whole : (pattern.read cs).bind value with
  | error fault => simp [whole, Except.toOption] at found
  | ok other =>
      simp only [whole, Except.toOption, Option.some.injEq] at found
      obtain ⟨r, _, same⟩ := (except_bind_ok_iff _ _ _).mp whole
      exact ⟨r, found ▸ same⟩

theorem date_time_written (cs : List Char) (d : DateTime) (read : readDateTime cs = .ok d) :
    d.time.isWritten = true := by
  unfold readDateTime at read
  split at read
  · rename_i found
    cases read
    obtain ⟨r, value⟩ := first_value _ _ _ _ found
    exact value_written r d value
  · split at read
    · rename_i stamp
      cases read
      exact universal_written _ (timestamp_written cs _ stamp)
    · obtain ⟨date, _, same⟩ := (except_map_ok_iff _ _ _).mp read
      cases same
      rfl

theorem offset_date_time_written (cs : List Char) (d : OffsetDateTime) (read : readOffsetDateTime cs = .ok d) :
    d.isWritten = true := by
  unfold readOffsetDateTime at read
  split at read
  · rename_i stamp
    cases read
    exact timestamp_written cs _ stamp
  · split at read
    · rename_i found
      cases read
      obtain ⟨r, value⟩ := first_value _ _ _ _ found
      exact offset_value_written r d value
    · obtain ⟨zoned, plain, whole⟩ := (except_bind_ok_iff _ _ _).mp read
      split at whole
      · rename_i made
        cases whole
        exact made_written zoned 0 _ (date_time_written cs zoned plain) made
      · cases whole

end Readings

end Calendar

end TokenFilter
