import Datestamp.Proofs.Calendar.Counting
import Datestamp.Proofs.Host.Known

/-!
# A resolved time is a valid one and gives the instant back

What the resolver returns is a date of the calendar and a time of day. Counted off from 1970-01-01,
the date is so many days away, and with the time of day less the offset these days make up the
instant (`resolve_tells`). The place in the year and the day of the week are those of the date. All
of this holds on either side of 1970 and of the year 0, in every zone, and needs of the host only
that it breaks instants down: what it counts from elsewhere has then been counted anew.
-/

namespace Datestamp.LocalTime

open Calendar

/-- A local time that is a valid date and a time of day, and stands for an instant. Its date is
`days` after 1970-01-01, a Thursday. -/
structure Tells (time : LocalTime) (instant days : Int) : Prop where
  valid : time.date.Valid
  hour_lt : time.hour < 24
  minute_lt : time.minute < 60
  second_lt : time.second < 60
  /-- So many days lead from 1970-01-01 to the date. -/
  counted : Date.DaysTo ⟨1970, 1, 1⟩ time.date days
  /-- Days and time of day less the offset make up the instant. -/
  instant_eq : 86400 * days + 3600 * time.hour + 60 * time.minute + time.second -
    time.utcOffset = instant
  /-- The place in the year counts from one. -/
  yearDay_counted : Date.DaysTo ⟨time.year, 1, 1⟩ time.date (time.yearDay - 1)
  yearDay_le : 1 ≤ time.yearDay ∧ time.yearDay ≤ if isLeap time.year then 366 else 365
  /-- The week starts with Monday, and Thursday is day 3. -/
  weekday_eq : (time.weekday : Int) = (days + 3) % 7

variable {host : Host} {time : LocalTime} {instant seconds : Int}

/-- Day and time of day are quotient and remainder of the moment that is shown. -/
theorem Shows.seconds_eq (h : time.Shows seconds) :
    86400 * (seconds / daySeconds) + 3600 * time.hour + 60 * time.minute + time.second =
      seconds := by
  have hhour := h.hour
  have hminute := h.minute
  have hsecond := h.second
  unfold daySeconds at *
  omega

theorem Shows.tells (h : time.Shows (instant + time.utcOffset)) :
    time.Tells instant ((instant + time.utcOffset) / daySeconds) where
  valid := by
    rw [h.date]
    exact Date.valid_ofDay _
  hour_lt := by
    have hhour := h.hour
    unfold daySeconds at hhour
    omega
  minute_lt := by
    have hminute := h.minute
    omega
  second_lt := by
    have hsecond := h.second
    omega
  counted := by
    rw [h.date]
    exact Date.daysTo_ofDay _
  instant_eq := by
    have hseconds := h.seconds_eq
    omega
  yearDay_counted := by
    have hplace : (time.yearDay : Int) - 1 =
        dayOfYear ((instant + time.utcOffset) / daySeconds) := by
      have hyearDay := h.yearDay
      omega
    rw [h.date, h.year, hplace]
    exact Date.newYear_daysTo_ofDay _
  yearDay_le := by
    rw [h.yearDay, h.year]
    exact ⟨Nat.le_add_left 1 _, dayOfYear_lt_yearLength _⟩
  weekday_eq := h.weekday

/-- **A resolved time is valid and gives the instant back.** Its offset is what the host tells. -/
theorem resolve_tells (hhost : host.BreaksDown) (h : resolve host instant = .ok time) :
    (∃ told, host.localTime instant = some told ∧ time.utcOffset = told.offset.toInt) ∧
      ∃ days, time.Tells instant days := by
  obtain ⟨told, htold, -, htime⟩ := resolve_eq_ok_iff.mp h
  exact ⟨⟨told, htold, congrArg utcOffset htime⟩, _, (hhost.shows h).tells⟩

/-- The leap day of the year 0, half past twelve on a clock that is five and a half hours ahead. -/
theorem resolve_tells_leap_day :
    (Host.fixed 19800 "IST".toList).BreaksDown ∧
    resolve (.fixed 19800 "IST".toList) (-62162096104) =
      .ok ⟨0, 2, 29, 12, 34, 56, 1, 60, some "IST".toList, .inactive, 19800⟩ ∧
    ∃ days, Tells ⟨0, 2, 29, 12, 34, 56, 1, 60, some "IST".toList, .inactive, 19800⟩
      (-62162096104) days := by
  have hhost : (Host.fixed 19800 "IST".toList).BreaksDown := Host.fixed_breaksDown (by decide)
  have h : resolve (.fixed 19800 "IST".toList) (-62162096104) =
      .ok ⟨0, 2, 29, 12, 34, 56, 1, 60, some "IST".toList, .inactive, 19800⟩ :=
    eq_ok_of_toOption (by decide +kernel)
  exact ⟨hhost, h, (resolve_tells hhost h).2⟩

end Datestamp.LocalTime
