import Datestamp.Proofs.Calendar.Dates

/-!
# Counting days on the calendar

A date has a next one: the following day of the month, or the first of the next month, or the first
of January. Dates can be counted off in this way, without any formula, and the number of a date's
day agrees with the count: the days that lead from one date to another are the difference of their
numbers (`Date.daysTo_iff`). So numbers and valid dates correspond one to one (`Date.ofDay_toDay`).
-/

namespace Datestamp.Calendar

/-! ## A year is told by any of its days -/

theorem yearOf_eq_iff {day year : Int} :
    yearOf day = year ↔ yearStart year ≤ day ∧ day < yearStart (year + 1) := by
  constructor
  · rintro rfl
    exact ⟨yearStart_yearOf_le day, lt_yearStart_yearOf_succ day⟩
  · rintro ⟨hle, hlt⟩
    have hle' := yearStart_yearOf_le day
    have hlt' := lt_yearStart_yearOf_succ day
    -- of two years one would be over before the other begins
    rcases Int.lt_trichotomy (yearOf day) year with h | h | h
    · have hover := yearStart_mono (show yearOf day + 1 ≤ year by omega)
      omega
    · exact h
    · have hover := yearStart_mono (show year + 1 ≤ yearOf day by omega)
      omega

/-! ## Days before a month -/

theorem foldr_take_succ (lengths : List Nat) (n : Nat) :
    (lengths.take (n + 1)).foldr (· + ·) 0 =
      (lengths.take n).foldr (· + ·) 0 + lengths.getD n 0 := by
  induction lengths generalizing n with
  | nil => simp
  | cons length lengths ih =>
      cases n with
      | zero => simp
      | succ n =>
          rw [List.take_succ_cons, List.take_succ_cons, List.foldr_cons, List.foldr_cons, ih,
            List.getD_cons_succ, Nat.add_assoc]

theorem foldr_take_le (lengths : List Nat) (n : Nat) :
    (lengths.take n).foldr (· + ·) 0 ≤ lengths.foldr (· + ·) 0 := by
  induction lengths generalizing n with
  | nil => simp
  | cons length lengths ih =>
      cases n with
      | zero => simp
      | succ n =>
          rw [List.take_succ_cons, List.foldr_cons, List.foldr_cons]
          exact Nat.add_le_add_left (ih n) length

/-- A day that lies in a part is split off with the parts before it. -/
theorem splitDay_foldr_take {lengths : List Nat} {n rest : Nat} (h : rest < lengths.getD n 0) :
    splitDay lengths ((lengths.take n).foldr (· + ·) 0 + rest) = (n, rest) := by
  induction lengths generalizing n with
  | nil => exact absurd h (Nat.not_lt_zero rest)
  | cons length lengths ih =>
      cases n with
      | zero =>
          have hin : rest < length := h
          rw [List.take_zero, List.foldr_nil, Nat.zero_add, splitDay, if_pos hin]
      | succ n =>
          have hsum : ((length :: lengths).take (n + 1)).foldr (· + ·) 0 + rest =
              length + ((lengths.take n).foldr (· + ·) 0 + rest) := by
            rw [List.take_succ_cons, List.foldr_cons, Nat.add_assoc]
          have hbeyond : ¬ length + ((lengths.take n).foldr (· + ·) 0 + rest) < length := by
            omega
          have hrest := ih (n := n) h
          rw [hsum, splitDay, if_neg hbeyond, Nat.add_sub_cancel_left, hrest]

theorem daysBeforeMonth_succ (year : Int) {month : Nat} (h : 1 ≤ month) :
    daysBeforeMonth year (month + 1) = daysBeforeMonth year month + monthLength year month := by
  have hmonth : month + 1 - 1 = month - 1 + 1 := by omega
  rw [daysBeforeMonth, hmonth, foldr_take_succ]
  rfl

theorem daysBeforeMonth_le (year : Int) (month : Nat) :
    daysBeforeMonth year month ≤ yearLength year := by
  rw [← foldr_monthLengths]
  exact foldr_take_le _ _

theorem daysBeforeMonth_thirteen (year : Int) : daysBeforeMonth year 13 = yearLength year :=
  foldr_monthLengths year

theorem one_le_monthLength {year : Int} {month : Nat} (h : 1 ≤ month ∧ month ≤ 12) :
    1 ≤ monthLength year month := by
  have all : ∀ leap : Bool, ∀ n < 12,
      1 ≤ [31, if leap then 29 else 28, 31, 30, 31, 30, 31, 31, 30, 31, 30, 31].getD n 0 := by
    decide
  exact all (isLeap year) (month - 1) (by omega)

namespace Date

/-! ## Numbers and valid dates -/

variable {d e : Date}

/-- The place of a valid date in its year. -/
theorem Valid.place_le (h : d.Valid) :
    daysBeforeMonth d.year d.month + d.day ≤ yearLength d.year := by
  have hsum := daysBeforeMonth_succ d.year h.month.1
  have hle := daysBeforeMonth_le d.year (d.month + 1)
  have hday := h.day.2
  omega

theorem Valid.yearOf_toDay (h : d.Valid) : yearOf d.toDay = d.year := by
  have hplace := h.place_le
  have hday := h.day.1
  rw [yearOf_eq_iff, yearStart_succ, toDay]
  omega

theorem Valid.dayOfYear_toDay (h : d.Valid) :
    dayOfYear d.toDay = daysBeforeMonth d.year d.month + (d.day - 1) := by
  have hday := h.day.1
  rw [dayOfYear, h.yearOf_toDay, toDay]
  omega

/-- A valid date is that of its number. -/
theorem ofDay_toDay (h : d.Valid) : ofDay d.toDay = d := by
  have hin : d.day - 1 < (monthLengths d.year).getD (d.month - 1) 0 := by
    have hday : d.day ≤ (monthLengths d.year).getD (d.month - 1) 0 := h.day.2
    have hpos := h.day.1
    omega
  have hsplit : splitDay (monthLengths (yearOf d.toDay)) (dayOfYear d.toDay) =
      (d.month - 1, d.day - 1) := by
    rw [h.yearOf_toDay, h.dayOfYear_toDay]
    exact splitDay_foldr_take hin
  have hmonth := h.month.1
  have hday := h.day.1
  ext
  · exact h.yearOf_toDay
  · rw [month_ofDay, hsplit]
    exact Nat.sub_add_cancel hmonth
  · rw [day_ofDay, hsplit]
    exact Nat.sub_add_cancel hday

theorem eq_of_toDay_eq (hd : d.Valid) (he : e.Valid) (h : d.toDay = e.toDay) : d = e := by
  rw [← ofDay_toDay hd, h, ofDay_toDay he]

/-- The first day of a year has the year's own number. -/
theorem toDay_newYear (year : Int) : toDay ⟨year, 1, 1⟩ = yearStart year := by
  show yearStart year + (0 : Nat) + (1 : Nat) - 1 = yearStart year
  omega

theorem valid_newYear (year : Int) : Valid ⟨year, 1, 1⟩ where
  month := (by decide : 1 ≤ 1 ∧ 1 ≤ 12)
  day := ⟨Nat.le_refl 1, one_le_monthLength (by decide : 1 ≤ 1 ∧ 1 ≤ 12)⟩

/-! ## From one day to the next -/

/-- The date after a date. -/
def next (d : Date) : Date :=
  if d.day < monthLength d.year d.month then ⟨d.year, d.month, d.day + 1⟩
  else if d.month < 12 then ⟨d.year, d.month + 1, 1⟩
  else ⟨d.year + 1, 1, 1⟩

theorem Valid.next (h : d.Valid) : d.next.Valid := by
  have hmonth := h.month
  unfold Date.next
  split
  · exact ⟨hmonth, Nat.le_add_left 1 d.day, ‹_›⟩
  · split
    · have hnext : 1 ≤ d.month + 1 ∧ d.month + 1 ≤ 12 := by omega
      exact ⟨hnext, Nat.le_refl 1, one_le_monthLength hnext⟩
    · exact valid_newYear (d.year + 1)

theorem Valid.toDay_next (h : d.Valid) : d.next.toDay = d.toDay + 1 := by
  have hmonth := h.month
  have hday := h.day
  unfold Date.next
  split
  · simp only [toDay]
    omega
  · -- the last day of a month: the next one starts where this one ends
    have hlast : d.day = monthLength d.year d.month := by omega
    split
    · have hsum := daysBeforeMonth_succ d.year hmonth.1
      simp only [toDay]
      omega
    · have hdecember : d.month = 12 := by omega
      have hsum := daysBeforeMonth_succ d.year hmonth.1
      rw [hdecember] at hsum hlast
      rw [daysBeforeMonth_thirteen] at hsum
      rw [toDay_newYear, yearStart_succ, toDay, hdecember]
      omega

/-- The date a number of days after a date. -/
def later (d : Date) : Nat → Date
  | 0 => d
  | n + 1 => (d.later n).next

theorem Valid.later (h : d.Valid) (n : Nat) : (d.later n).Valid := by
  induction n with
  | zero => exact h
  | succ n ih => exact ih.next

theorem Valid.toDay_later (h : d.Valid) (n : Nat) : (d.later n).toDay = d.toDay + n := by
  induction n with
  | zero => exact (Int.add_zero _).symm
  | succ n ih =>
      show (d.later n).next.toDay = _
      rw [(h.later n).toDay_next, ih]
      omega

/-! ## The days between two dates -/

/-- Counting off on the calendar, `n` days lead from `d` to `e`; back, if `n` is negative. -/
def DaysTo (d e : Date) (n : Int) : Prop := ∃ i j : Nat, d.later i = e.later j ∧ n = i - j

/-- **The number of a date's day counts the days.** -/
theorem daysTo_iff (hd : d.Valid) (he : e.Valid) {n : Int} :
    d.DaysTo e n ↔ e.toDay - d.toDay = n := by
  constructor
  · rintro ⟨i, j, heq, rfl⟩
    have hi := hd.toDay_later i
    have hj := he.toDay_later j
    rw [heq] at hi
    omega
  · rintro rfl
    -- the later date is reached from the earlier one
    refine ⟨(e.toDay - d.toDay).toNat, (d.toDay - e.toDay).toNat, ?_, by omega⟩
    apply eq_of_toDay_eq (hd.later _) (he.later _)
    rw [hd.toDay_later, he.toDay_later]
    omega

/-- The date of a day is reached from 1970-01-01 in as many days. -/
theorem daysTo_ofDay (day : Int) : DaysTo ⟨1970, 1, 1⟩ (ofDay day) day := by
  rw [daysTo_iff (valid_newYear 1970) (valid_ofDay day), toDay_ofDay]
  exact Int.sub_zero day

/-- And from the first of January in as many as its place in the year says. -/
theorem newYear_daysTo_ofDay (day : Int) :
    DaysTo ⟨yearOf day, 1, 1⟩ (ofDay day) (dayOfYear day) := by
  have hle := yearStart_yearOf_le day
  rw [daysTo_iff (valid_newYear _) (valid_ofDay day), toDay_ofDay, toDay_newYear, dayOfYear]
  omega

end Date

end Datestamp.Calendar
