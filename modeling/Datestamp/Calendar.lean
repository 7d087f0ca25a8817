/-!
# The calendar

The proleptic Gregorian calendar: years of 365 or 366 days in cycles of 400, with a year 0 and
negative years. Days are numbered from 1970-01-01, which is day 0 and a Thursday. A run leaves all
reckoning to the host; this is the calendar that its answers are measured by.
-/

namespace Datestamp.Calendar

/-- The number of seconds in a day. -/
def daySeconds : Int := 86400

/-! ## Years -/

def isLeap (year : Int) : Bool := year % 4 = 0 ∧ (year % 100 ≠ 0 ∨ year % 400 = 0)

/-- The number of days in a year. -/
def yearLength (year : Int) : Nat := if isLeap year then 366 else 365

/-- The days from 0001-01-01 to 1970-01-01. -/
def epoch : Int := 719162

/-- The number of the first day of a year. -/
def yearStart (year : Int) : Int :=
  365 * (year - 1) + (year - 1) / 4 - (year - 1) / 100 + (year - 1) / 400 - epoch

/-- The year that a day lies in: whole cycles of 400 years, then centuries, spans of four years and
years of what is left. The last century of a cycle and the last year of a span may be a day longer
than the others, so that none of them counts beyond three. -/
def yearOf (day : Int) : Int :=
  let cycle := (day + epoch) / 146097
  let inCycle := (day + epoch) % 146097
  let century := min (inCycle / 36524) 3
  let inCentury := inCycle - 36524 * century
  let span := inCentury / 1461
  let year := min (inCentury % 1461 / 365) 3
  400 * cycle + 100 * century + 4 * span + year + 1

/-- The place of a day in its year, counted from zero. -/
def dayOfYear (day : Int) : Nat := (day - yearStart (yearOf day)).toNat

/-! ## Months -/

/-- The lengths of the months of a year. -/
def monthLengths (year : Int) : List Nat :=
  [31, if isLeap year then 29 else 28, 31, 30, 31, 30, 31, 31, 30, 31, 30, 31]

/-- The number of days in a month, the first month being 1. -/
def monthLength (year : Int) (month : Nat) : Nat := (monthLengths year).getD (month - 1) 0

/-- The days of a year before a month. -/
def daysBeforeMonth (year : Int) (month : Nat) : Nat :=
  ((monthLengths year).take (month - 1)).foldr (· + ·) 0

/-- How many of the lengths lie wholly before `day`, and how far into the next one it is. -/
def splitDay : (lengths : List Nat) → (day : Nat) → Nat × Nat
  | [], day => (0, day)
  | length :: lengths, day =>
    if day < length then (0, day)
    else
      let (n, rest) := splitDay lengths (day - length)
      (n + 1, rest)

/-! ## Dates -/

/-- A day of the calendar; months and days count from one. -/
@[ext]
structure Date where
  year : Int
  month : Nat
  day : Nat
deriving DecidableEq, Repr

/-- The date of a day. -/
def Date.ofDay (day : Int) : Date :=
  let (month, rest) := splitDay (monthLengths (yearOf day)) (dayOfYear day)
  ⟨yearOf day, month + 1, rest + 1⟩

/-- The number of a date's day. -/
def Date.toDay (d : Date) : Int :=
  yearStart d.year + daysBeforeMonth d.year d.month + d.day - 1

/-! ## A day lies in its year -/

theorem yearStart_succ (year : Int) : yearStart (year + 1) = yearStart year + yearLength year := by
  simp only [yearStart, yearLength, isLeap, epoch, decide_eq_true_eq]
  by_cases h : year % 4 = 0 ∧ (year % 100 ≠ 0 ∨ year % 400 = 0)
  · rw [if_pos h]
    omega
  · rw [if_neg h]
    omega

/-- The first day of a year, by its place in cycle, century and span of four years. -/
theorem yearStart_place {cycle century span year : Int} (hc : 0 ≤ century ∧ century ≤ 3)
    (hs : 0 ≤ span ∧ span ≤ 24) (hy : 0 ≤ year ∧ year ≤ 3) :
    yearStart (400 * cycle + 100 * century + 4 * span + year + 1) =
      146097 * cycle + 36524 * century + 1461 * span + 365 * year - epoch := by
  simp only [yearStart, Int.add_sub_cancel]
  have h₄ : (400 * cycle + 100 * century + 4 * span + year) / 4 =
      100 * cycle + 25 * century + span := by omega
  have h₁₀₀ : (400 * cycle + 100 * century + 4 * span + year) / 100 = 4 * cycle + century := by
    omega
  have h₄₀₀ : (400 * cycle + 100 * century + 4 * span + year) / 400 = cycle := by omega
  rw [h₄, h₁₀₀, h₄₀₀]
  omega

/-- The year of a day, by its place: what is left of the day is less than the year's length. -/
theorem yearOf_place (day : Int) :
    ∃ cycle century span year rest : Int,
      (0 ≤ century ∧ century ≤ 3) ∧ (0 ≤ span ∧ span ≤ 24) ∧ (0 ≤ year ∧ year ≤ 3) ∧
      yearOf day = 400 * cycle + 100 * century + 4 * span + year + 1 ∧
      day = 146097 * cycle + 36524 * century + 1461 * span + 365 * year - epoch + rest ∧
      0 ≤ rest ∧ (rest < 365 ∨ rest = 365 ∧ year = 3 ∧ (span < 24 ∨ century = 3)) := by
  refine ⟨(day + epoch) / 146097, min ((day + epoch) % 146097 / 36524) 3,
    ((day + epoch) % 146097 - 36524 * min ((day + epoch) % 146097 / 36524) 3) / 1461,
    min (((day + epoch) % 146097 - 36524 * min ((day + epoch) % 146097 / 36524) 3) % 1461 / 365) 3,
    ((day + epoch) % 146097 - 36524 * min ((day + epoch) % 146097 / 36524) 3) % 1461 -
      365 * min (((day + epoch) % 146097 - 36524 * min ((day + epoch) % 146097 / 36524) 3) %
        1461 / 365) 3, ?_, ?_, ?_, rfl, ?_, ?_, ?_⟩ <;> omega

theorem yearStart_yearOf_le (day : Int) : yearStart (yearOf day) ≤ day := by
  obtain ⟨cycle, century, span, year, rest, hc, hs, hy, hyear, hday, hrest, -⟩ := yearOf_place day
  rw [hyear, yearStart_place hc hs hy]
  omega

theorem lt_yearStart_yearOf_succ (day : Int) : day < yearStart (yearOf day + 1) := by
  obtain ⟨cycle, century, span, year, rest, hc, hs, hy, hyear, hday, hrest, hlt⟩ :=
    yearOf_place day
  rw [hyear, yearStart_succ, yearStart_place hc hs hy, yearLength, isLeap]
  rcases hlt with h | ⟨h, rfl, hlast⟩
  · split <;> omega
  · rw [if_pos]
    · omega
    · simp only [decide_eq_true_eq]
      omega

/-! ## A day is told by its date -/

/-- The lengths that lie before a day and what is left of it add up to the day. -/
theorem foldr_take_splitDay (lengths : List Nat) (day : Nat) :
    (lengths.take (splitDay lengths day).1).foldr (· + ·) 0 + (splitDay lengths day).2 = day := by
  induction lengths generalizing day with
  | nil => simp [splitDay]
  | cons length lengths ih =>
      rw [splitDay]
      split
      · simp
      · have hrest := ih (day - length)
        simp only [List.take_succ_cons, List.foldr_cons]
        omega

theorem Date.toDay_ofDay (day : Int) : (Date.ofDay day).toDay = day := by
  have hsplit := foldr_take_splitDay (monthLengths (yearOf day)) (dayOfYear day)
  have hstart : yearStart (yearOf day) + dayOfYear day = day := by
    have hle := yearStart_yearOf_le day
    rw [dayOfYear]
    omega
  simp only [Date.toDay, Date.ofDay, daysBeforeMonth, Nat.add_sub_cancel]
  omega

theorem Date.ofDay_inj {a b : Int} (h : Date.ofDay a = Date.ofDay b) : a = b := by
  rw [← Date.toDay_ofDay a, h, Date.toDay_ofDay]

end Datestamp.Calendar
