import Datestamp.Failure
import Datestamp.LocalTime

/-!
# Resolving an instant

An instant is resolved by asking the host to break it down. An instant that the host refuses is a
problem. What the host tells is then counted anew: years from the year 0, months and days of the
year from one, and the week from Monday. The sums are checked for the words of 32 bits that they are
made in, so a year may end in a fault; all numbers but the year lose their sign.
-/

namespace Datestamp.LocalTime

/-- The year from which the host counts. -/
def firstYear : Int := 1900

/-- A word of 32 bits, read without its sign. -/
def unsigned (n : Int) : Nat := (n % 4294967296).toNat

/-- The local time that the host tells. -/
def ofHost (told : HostTime) : Except Fault LocalTime := do
  let year ← checked FitsInt32 .add (told.year.toInt + firstYear)
  let month ← checked FitsInt32 .add (told.month.toInt + 1)
  let weekday ← checked FitsInt32 .add (told.weekday.toInt + 6)
  let yearDay ← checked FitsInt32 .add (told.yearDay.toInt + 1)
  return {
    year := year
    month := unsigned month
    day := unsigned told.day.toInt
    hour := unsigned told.hour.toInt
    minute := unsigned told.minute.toInt
    second := unsigned told.second.toInt
    weekday := unsigned (weekday.tmod 7)
    yearDay := unsigned yearDay
    zoneName := told.zoneName
    daylight := .ofFlag told.daylight.toInt
    utcOffset := told.offset.toInt }

/-- The local time of an instant. -/
def resolve (host : Host) (instant : Int) : Except Failure LocalTime :=
  match host.localTime instant with
  | none => .error (.problem (.unrepresentable instant))
  | some told => (ofHost told).mapError .fault

/-! ## What is taken over -/

/-- The four sums, as numbers, fit their words. -/
structure SumsFit (told : HostTime) : Prop where
  year : FitsInt32 (told.year.toInt + firstYear)
  month : FitsInt32 (told.month.toInt + 1)
  weekday : FitsInt32 (told.weekday.toInt + 6)
  yearDay : FitsInt32 (told.yearDay.toInt + 1)

/-- What the host tells, counted anew. -/
def renumbered (told : HostTime) : LocalTime where
  year := told.year.toInt + firstYear
  month := unsigned (told.month.toInt + 1)
  day := unsigned told.day.toInt
  hour := unsigned told.hour.toInt
  minute := unsigned told.minute.toInt
  second := unsigned told.second.toInt
  weekday := unsigned ((told.weekday.toInt + 6).tmod 7)
  yearDay := unsigned (told.yearDay.toInt + 1)
  zoneName := told.zoneName
  daylight := .ofFlag told.daylight.toInt
  utcOffset := told.offset.toInt

variable {told : HostTime} {host : Host} {instant : Int} {time : LocalTime}

theorem ofHost_of_sumsFit (h : SumsFit told) : ofHost told = .ok (renumbered told) := by
  refine bind_eq_ok (checked_eq_ok h.year) ?_
  refine bind_eq_ok (checked_eq_ok h.month) ?_
  refine bind_eq_ok (checked_eq_ok h.weekday) ?_
  exact bind_eq_ok (checked_eq_ok h.yearDay) rfl

theorem of_ofHost (h : ofHost told = .ok time) : SumsFit told ∧ time = renumbered told := by
  obtain ⟨year, hyear, h⟩ := of_bind_eq_ok h
  obtain ⟨month, hmonth, h⟩ := of_bind_eq_ok h
  obtain ⟨weekday, hweekday, h⟩ := of_bind_eq_ok h
  obtain ⟨yearDay, hyearDay, h⟩ := of_bind_eq_ok h
  obtain ⟨fyear, rfl⟩ := of_checked hyear
  obtain ⟨fmonth, rfl⟩ := of_checked hmonth
  obtain ⟨fweekday, rfl⟩ := of_checked hweekday
  obtain ⟨fyearDay, rfl⟩ := of_checked hyearDay
  exact ⟨⟨fyear, fmonth, fweekday, fyearDay⟩, (Except.ok.inj h).symm⟩

/-- Whichever sum does not fit, the fault is the same. -/
theorem of_ofHost_error {fault : Fault} (h : ofHost told = .error fault) :
    fault = .overflow .add := by
  rcases of_bind_eq_error h with hyear | ⟨_, -, h⟩
  · exact of_checked_error hyear
  rcases of_bind_eq_error h with hmonth | ⟨_, -, h⟩
  · exact of_checked_error hmonth
  rcases of_bind_eq_error h with hweekday | ⟨_, -, h⟩
  · exact of_checked_error hweekday
  rcases of_bind_eq_error h with hyearDay | ⟨_, -, h⟩
  · exact of_checked_error hyearDay
  · cases h

theorem ofHost_of_not_sumsFit (h : ¬ SumsFit told) : ofHost told = .error (.overflow .add) := by
  cases htime : ofHost told with
  | ok time => exact absurd (of_ofHost htime).1 h
  | error fault => rw [of_ofHost_error htime]

/-! ## The three outcomes -/

theorem resolve_of_none (h : host.localTime instant = none) :
    resolve host instant = .error (.problem (.unrepresentable instant)) := by
  simp only [resolve, h]

theorem resolve_of_some (h : host.localTime instant = some told) :
    resolve host instant = (ofHost told).mapError .fault := by
  simp only [resolve, h]

theorem resolve_eq_ok_iff :
    resolve host instant = .ok time ↔
      ∃ told, host.localTime instant = some told ∧ SumsFit told ∧ time = renumbered told := by
  constructor
  · intro h
    cases htold : host.localTime instant with
    | none => cases (resolve_of_none htold).symm.trans h
    | some told =>
        rw [resolve_of_some htold] at h
        exact ⟨told, rfl, of_ofHost (of_mapError_eq_ok h)⟩
  · rintro ⟨told, htold, hfits, rfl⟩
    rw [resolve_of_some htold]
    exact mapError_eq_ok (ofHost_of_sumsFit hfits)

/-- The instants that are reported are those that the host refuses, and the report names them. -/
theorem resolve_eq_problem_iff {p : Problem} :
    resolve host instant = .error (.problem p) ↔
      host.localTime instant = none ∧ p = .unrepresentable instant := by
  constructor
  · intro h
    cases htold : host.localTime instant with
    | none =>
        rw [resolve_of_none htold] at h
        exact ⟨rfl, (Failure.problem.inj (Except.error.inj h)).symm⟩
    | some told =>
        rw [resolve_of_some htold] at h
        obtain ⟨fault, -, hfault⟩ := of_mapError_eq_error h
        cases hfault
  · rintro ⟨htold, rfl⟩
    exact resolve_of_none htold

theorem resolve_eq_fault_iff {fault : Fault} :
    resolve host instant = .error (.fault fault) ↔
      (∃ told, host.localTime instant = some told ∧ ¬ SumsFit told) ∧
        fault = .overflow .add := by
  constructor
  · intro h
    cases htold : host.localTime instant with
    | none => cases (resolve_of_none htold).symm.trans h
    | some told =>
        rw [resolve_of_some htold] at h
        obtain ⟨fault', hfault, heq⟩ := of_mapError_eq_error h
        obtain rfl := Failure.fault.inj heq
        refine ⟨⟨told, rfl, ?_⟩, of_ofHost_error hfault⟩
        intro hfits
        cases hfault.symm.trans (ofHost_of_sumsFit hfits)
  · rintro ⟨⟨told, htold, hfits⟩, rfl⟩
    rw [resolve_of_some htold]
    exact mapError_eq_error (ofHost_of_not_sumsFit hfits)

end Datestamp.LocalTime
