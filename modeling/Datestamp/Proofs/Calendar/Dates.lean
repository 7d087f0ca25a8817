import Datestamp.Calendar

/-!
# Dates follow the days

The date of a day is a valid one: its month is one of twelve, and its day is within the length of
that month (`Date.valid_ofDay`). Later days have later dates, by year, then by month, then by day
(`Date.earlier_ofDay`). Both come down to how the place of a day in its year is split along the
lengths of the months: the split finds the month that the place lies in, and it is monotone.
-/

namespace Datestamp.Calendar

/-! ## Years in order -/

theorem yearStart_mono {x y : Int} (h : x ≤ y) : yearStart x ≤ yearStart y := by
  unfold yearStart
  omega

theorem yearOf_mono {a b : Int} (h : a ≤ b) : yearOf a ≤ yearOf b := by
  by_cases hyear : yearOf a ≤ yearOf b
  · exact hyear
  · have hnext : yearOf b + 1 ≤ yearOf a := by omega
    have hstart : yearStart (yearOf b + 1) ≤ a :=
      Int.le_trans (yearStart_mono hnext) (yearStart_yearOf_le a)
    have hbefore := lt_yearStart_yearOf_succ b
    omega

theorem yearLength_le (year : Int) : yearLength year ≤ 366 := by
  unfold yearLength
  split <;> decide

theorem dayOfYear_lt_yearLength (day : Int) : dayOfYear day < yearLength (yearOf day) := by
  have hle := yearStart_yearOf_le day
  have hlt := lt_yearStart_yearOf_succ day
  rw [yearStart_succ] at hlt
  unfold dayOfYear
  omega

theorem dayOfYear_lt {a b : Int} (h : a < b) (hyear : yearOf a = yearOf b) :
    dayOfYear a < dayOfYear b := by
  have hle := yearStart_yearOf_le a
  rw [hyear] at hle
  unfold dayOfYear
  rw [hyear]
  omega

/-! ## The months of a year -/

theorem foldr_monthLengths (year : Int) :
    (monthLengths year).foldr (· + ·) 0 = yearLength year := by
  unfold monthLengths yearLength
  cases isLeap year <;> rfl

theorem le_of_mem_monthLengths {year : Int} {length : Nat} (h : length ∈ monthLengths year) :
    length ≤ 31 := by
  unfold monthLengths at h
  cases hl : isLeap year <;> simp [hl] at h <;> omega

/-- A day that is not beyond all of the lengths lies in one of them. -/
theorem splitDay_lt {lengths : List Nat} {day : Nat} (h : day < lengths.foldr (· + ·) 0) :
    ∃ length, lengths[(splitDay lengths day).1]? = some length ∧
      (splitDay lengths day).2 < length := by
  induction lengths generalizing day with
  | nil => exact absurd h (Nat.not_lt_zero day)
  | cons length lengths ih =>
      rw [splitDay]
      split
      · exact ⟨length, rfl, ‹_›⟩
      · rw [List.foldr_cons] at h
        have hrest : day - length < lengths.foldr (· + ·) 0 := by omega
        obtain ⟨found, hfound, hlt⟩ := ih hrest
        exact ⟨found, hfound, hlt⟩

/-- A later day lies in a later part, or further into the same one. -/
theorem splitDay_mono (lengths : List Nat) {a b : Nat} (h : a < b) :
    (splitDay lengths a).1 < (splitDay lengths b).1 ∨
      (splitDay lengths a).1 = (splitDay lengths b).1 ∧
        (splitDay lengths a).2 < (splitDay lengths b).2 := by
  induction lengths generalizing a b with
  | nil => exact .inr ⟨rfl, h⟩
  | cons length lengths ih =>
      rw [splitDay, splitDay]
      by_cases ha : a < length
      · rw [if_pos ha]
        by_cases hb : b < length
        · rw [if_pos hb]
          exact .inr ⟨rfl, h⟩
        · rw [if_neg hb]
          exact .inl (Nat.succ_pos _)
      · have hb : ¬ b < length := by omega
        rw [if_neg ha, if_neg hb]
        rcases ih (show a - length < b - length by omega) with hfst | ⟨hfst, hsnd⟩
        · exact .inl (Nat.succ_lt_succ hfst)
        · exact .inr ⟨congrArg (· + 1) hfst, hsnd⟩

namespace Date

/-! ## Valid dates -/

theorem year_ofDay (day : Int) : (ofDay day).year = yearOf day := rfl

theorem month_ofDay (day : Int) :
    (ofDay day).month = (splitDay (monthLengths (yearOf day)) (dayOfYear day)).1 + 1 := rfl

theorem day_ofDay (day : Int) :
    (ofDay day).day = (splitDay (monthLengths (yearOf day)) (dayOfYear day)).2 + 1 := rfl

structure Valid (d : Date) : Prop where
  month : 1 ≤ d.month ∧ d.month ≤ 12
  day : 1 ≤ d.day ∧ d.day ≤ monthLength d.year d.month

theorem valid_ofDay (day : Int) : (ofDay day).Valid := by
  have hplace := dayOfYear_lt_yearLength day
  rw [← foldr_monthLengths] at hplace
  obtain ⟨length, hfound, hlt⟩ := splitDay_lt hplace
  obtain ⟨hmonth, -⟩ := List.getElem?_eq_some_iff.mp hfound
  have htwelve : (monthLengths (yearOf day)).length = 12 := rfl
  have hlength : monthLength (yearOf day) (ofDay day).month = length := by
    rw [monthLength, List.getD_eq_getElem?_getD]
    exact congrArg (Option.getD · 0) hfound
  constructor
  · rw [month_ofDay]
    omega
  · rw [year_ofDay, hlength, day_ofDay]
    omega

theorem Valid.day_le {d : Date} (h : d.Valid) : d.day ≤ 31 := by
  have hday := h.day
  rw [monthLength, List.getD_eq_getElem?_getD] at hday
  cases hfound : (monthLengths d.year)[d.month - 1]? with
  | none =>
      rw [hfound] at hday
      simp only [Option.getD_none] at hday
      omega
  | some length =>
      rw [hfound] at hday
      exact Nat.le_trans hday.2 (le_of_mem_monthLengths (List.mem_of_getElem? hfound))

/-! ## Dates in order -/

/-- Dates are compared by year, then by month, then by day. -/
def Earlier (a b : Date) : Prop :=
  a.year < b.year ∨ a.year = b.year ∧ (a.month < b.month ∨ a.month = b.month ∧ a.day < b.day)

theorem earlier_ofDay {a b : Int} (h : a < b) : (ofDay a).Earlier (ofDay b) := by
  rcases Int.lt_or_eq_of_le (yearOf_mono (Int.le_of_lt h)) with hyear | hyear
  · exact .inl hyear
  · refine .inr ⟨hyear, ?_⟩
    have hplace := splitDay_mono (monthLengths (yearOf b)) (dayOfYear_lt h hyear)
    rw [month_ofDay, month_ofDay, day_ofDay, day_ofDay, hyear]
    rcases hplace with hmonth | ⟨hmonth, hday⟩
    · exact .inl (Nat.succ_lt_succ hmonth)
    · exact .inr ⟨congrArg (· + 1) hmonth, Nat.succ_lt_succ hday⟩

end Date

end Datestamp.Calendar
