import Datestamp.LocalTime.Resolve
import Datestamp.Proofs.Calendar.Dates

/-!
# What hosts promise

The calendar and the zone are the host's own, and nothing is known of them but what it promises. The
promises are stated here, each for itself, so that every result says which of them it relies on. Most
of what is told about an instant needs only one: that local times show the instant, moved by the
offset told with it, in the proleptic Gregorian calendar (`Host.BreaksDown`). A resolved time then
shows it as well, counted anew (`Host.BreaksDown.shows`), and only its year can end in a fault
(`HostTime.Shows.sumsFit_iff`).
-/

namespace Datestamp

open Calendar

/-- What a host tells shows a moment of the local clock, counted in seconds from the start of
1970-01-01 on that clock. The day of the week counts from Sunday, and 1970-01-01 was a Thursday. -/
structure HostTime.Shows (told : HostTime) (seconds : Int) : Prop where
  year : told.year.toInt + 1900 = (Date.ofDay (seconds / daySeconds)).year
  month : told.month.toInt + 1 = (Date.ofDay (seconds / daySeconds)).month
  day : told.day.toInt = (Date.ofDay (seconds / daySeconds)).day
  hour : told.hour.toInt = seconds % daySeconds / 3600
  minute : told.minute.toInt = seconds % 3600 / 60
  second : told.second.toInt = seconds % 60
  weekday : told.weekday.toInt = (seconds / daySeconds + 4) % 7
  yearDay : told.yearDay.toInt = dayOfYear (seconds / daySeconds)

namespace Host

/-- Local times show the instant, moved by the offset that is told with them. -/
def BreaksDown (host : Host) : Prop :=
  ∀ ⦃t told⦄, host.localTime t = some told → told.Shows (t + told.offset.toInt)

/-- Offsets fit a signed word of 32 bits. Those of settings stay below 26 hours, and those of zone
files are kept in such words. -/
def Moderate (host : Host) : Prop :=
  ∀ ⦃t told⦄, host.localTime t = some told → FitsInt32 told.offset.toInt

/-- Local times tell the offset in effect. -/
def HasOffset (host : Host) (offset : Int → Int) : Prop :=
  ∀ ⦃t told⦄, host.localTime t = some told → told.offset.toInt = offset t

/-- An instant is refused only if its year, counted from 1900, does not fit a signed word of 32 bits,
in UTC or on the local clock. -/
def CountsYears (host : Host) (offset : Int → Int) : Prop :=
  ∀ ⦃t⦄, host.localTime t = none → ¬ FitsInt32 (yearOf (t / daySeconds) - 1900) ∨
    ¬ FitsInt32 (yearOf ((t + offset t) / daySeconds) - 1900)

/-- A host with one offset at all times, of whose instants it refuses only those that it cannot count
in years. -/
structure KeepsOffset (host : Host) (offset : Int) : Prop where
  breaksDown : host.BreaksDown
  hasOffset : host.HasOffset fun _ => offset
  countsYears : host.CountsYears fun _ => offset
  fits : FitsInt32 offset

end Host

/-! ## A resolved time shows what the host tells -/

namespace LocalTime

/-- The date of a local time. -/
def date (time : LocalTime) : Date := ⟨time.year, time.month, time.day⟩

/-- A local time shows a moment of the local clock. The week starts with Monday, and days of the year
count from one. -/
structure Shows (time : LocalTime) (seconds : Int) : Prop where
  date : time.date = Date.ofDay (seconds / daySeconds)
  hour : (time.hour : Int) = seconds % daySeconds / 3600
  minute : (time.minute : Int) = seconds % 3600 / 60
  second : (time.second : Int) = seconds % 60
  weekday : (time.weekday : Int) = (seconds / daySeconds + 3) % 7
  yearDay : time.yearDay = dayOfYear (seconds / daySeconds) + 1

theorem Shows.year {time : LocalTime} {seconds : Int} (h : time.Shows seconds) :
    time.year = yearOf (seconds / daySeconds) := congrArg Date.year h.date

/-- A number that is not negative is read as itself. -/
theorem unsigned_of_bounds {n : Int} (hlow : 0 ≤ n) (hhigh : n < 4294967296) :
    (unsigned n : Int) = n := by
  unfold unsigned
  omega

end LocalTime

namespace HostTime.Shows

open LocalTime

variable {told : HostTime} {seconds : Int}

theorem renumbered (h : told.Shows seconds) : (renumbered told).Shows seconds where
  date := by
    have hvalid := Date.valid_ofDay (seconds / daySeconds)
    have hmonth := hvalid.month
    have hday := hvalid.day_le
    ext
    · exact h.year
    · show unsigned (told.month.toInt + 1) = _
      rw [h.month, unsigned]
      omega
    · show unsigned told.day.toInt = _
      rw [h.day, unsigned]
      omega
  hour := by
    have hhour := h.hour
    unfold daySeconds at *
    exact (unsigned_of_bounds (by omega) (by omega)).trans hhour
  minute := by
    have hminute := h.minute
    exact (unsigned_of_bounds (by omega) (by omega)).trans hminute
  second := by
    have hsecond := h.second
    exact (unsigned_of_bounds (by omega) (by omega)).trans hsecond
  weekday := by
    have hweekday := h.weekday
    have hmod : (told.weekday.toInt + 6).tmod 7 = (told.weekday.toInt + 6) % 7 :=
      Int.tmod_eq_emod_of_nonneg (by omega)
    show (unsigned ((told.weekday.toInt + 6).tmod 7) : Int) = _
    rw [hmod, unsigned_of_bounds (by omega) (by omega)]
    omega
  yearDay := by
    have hplace := dayOfYear_lt_yearLength (seconds / daySeconds)
    have hlength := yearLength_le (yearOf (seconds / daySeconds))
    show unsigned (told.yearDay.toInt + 1) = _
    rw [h.yearDay, unsigned]
    omega

/-- Only the year may not fit its word. -/
theorem sumsFit_iff (h : told.Shows seconds) :
    SumsFit told ↔ FitsInt32 (yearOf (seconds / daySeconds)) := by
  have hvalid := Date.valid_ofDay (seconds / daySeconds)
  have hyear : told.year.toInt + firstYear = yearOf (seconds / daySeconds) := h.year
  constructor
  · intro hfits
    rw [← hyear]
    exact hfits.year
  · intro hfits
    have hmonth := h.month
    have hweekday := h.weekday
    have hyearDay := h.yearDay
    have hplace := dayOfYear_lt_yearLength (seconds / daySeconds)
    have hlength := yearLength_le (yearOf (seconds / daySeconds))
    have hlast := hvalid.month
    unfold FitsInt32 at hfits
    constructor <;> unfold FitsInt32 <;> omega

end HostTime.Shows

namespace Host

variable {host : Host} {instant : Int} {time : LocalTime}

theorem BreaksDown.shows (hhost : host.BreaksDown)
    (h : LocalTime.resolve host instant = .ok time) : time.Shows (instant + time.utcOffset) := by
  obtain ⟨told, htold, -, rfl⟩ := LocalTime.resolve_eq_ok_iff.mp h
  exact (hhost htold).renumbered

theorem Moderate.fits (hhost : host.Moderate)
    (h : LocalTime.resolve host instant = .ok time) : FitsInt32 time.utcOffset := by
  obtain ⟨told, htold, -, rfl⟩ := LocalTime.resolve_eq_ok_iff.mp h
  exact hhost htold

theorem HasOffset.eq {offset : Int → Int} (hhost : host.HasOffset offset)
    (h : LocalTime.resolve host instant = .ok time) : time.utcOffset = offset instant := by
  obtain ⟨told, htold, -, rfl⟩ := LocalTime.resolve_eq_ok_iff.mp h
  exact hhost htold

/-- What is told where an offset is in effect shows the instant, moved by this offset. -/
theorem BreaksDown.shows_of_hasOffset {offset : Int → Int} {told : HostTime}
    (hhost : host.BreaksDown) (hoffset : host.HasOffset offset)
    (htold : host.localTime instant = some told) : told.Shows (instant + offset instant) := by
  rw [← hoffset htold]
  exact hhost htold

theorem KeepsOffset.moderate {offset : Int} (hhost : host.KeepsOffset offset) : host.Moderate := by
  intro t told htold
  rw [hhost.hasOffset htold]
  exact hhost.fits

end Host

end Datestamp
