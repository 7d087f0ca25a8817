import Datestamp.Proofs.Host.Promises

/-!
# Hosts that keep their promises

Two kinds of hosts whose local times are known. A host with one offset at all times breaks every
instant down whose year it can count (`Host.fixed`). Of a host with several offsets a few answers are
enough (`Host.telling`): it promises what holds of each of them. Neither has a file, and their clocks
stand at 1970.
-/

namespace Datestamp

open Calendar

namespace Host

/-- A host whose local times are given. -/
def withLocalTime (localTime : (instant : Int) → Option HostTime) : Host :=
  ⟨0, fun _ => .error .notFound, localTime⟩

/-! ## One offset -/

/-- A moment of the local clock, in seconds, as it is broken down where one offset is in effect. -/
def fixedTime (offset : Int) (name : Text) (seconds : Int) : HostTime where
  year := .ofInt (yearOf (seconds / daySeconds) - 1900)
  month := .ofInt ((Date.ofDay (seconds / daySeconds)).month - 1)
  day := .ofInt (Date.ofDay (seconds / daySeconds)).day
  hour := .ofInt (seconds % daySeconds / 3600)
  minute := .ofInt (seconds % 3600 / 60)
  second := .ofInt (seconds % 60)
  weekday := .ofInt ((seconds / daySeconds + 4) % 7)
  yearDay := .ofInt (dayOfYear (seconds / daySeconds))
  daylight := 0
  offset := .ofInt offset
  zoneName := some name

/-- A host with one offset at all times. It refuses the instants whose local year, counted from 1900,
does not fit a word of 32 bits. -/
def fixed (offset : Int) (name : Text) : Host :=
  withLocalTime fun t =>
    if FitsInt32 (yearOf ((t + offset) / daySeconds) - 1900) then
      some (fixedTime offset name (t + offset))
    else none

variable {offset seconds t : Int} {name : Text} {told : HostTime}

theorem toInt_ofInt {n : Int} (h : FitsInt32 n) : (Int32.ofInt n).toInt = n :=
  Int32.toInt_ofInt_of_le h.1 (Int.lt_add_one_of_le h.2)

theorem shows_fixedTime (h : FitsInt32 (yearOf (seconds / daySeconds) - 1900)) :
    (fixedTime offset name seconds).Shows seconds := by
  have hvalid := Date.valid_ofDay (seconds / daySeconds)
  have hmonth := hvalid.month
  have hday := hvalid.day_le
  have hplace := dayOfYear_lt_yearLength (seconds / daySeconds)
  have hlength := yearLength_le (yearOf (seconds / daySeconds))
  have hhour : 0 ≤ seconds % daySeconds / 3600 ∧ seconds % daySeconds / 3600 < 24 := by
    unfold daySeconds
    omega
  have hword : ∀ {n : Int}, -1 ≤ n → n ≤ 86400 → (Int32.ofInt n).toInt = n := by
    intro n hlow hhigh
    exact toInt_ofInt ⟨by omega, by omega⟩
  constructor
  · show (Int32.ofInt _).toInt + 1900 = yearOf (seconds / daySeconds)
    rw [toInt_ofInt h]
    omega
  · show (Int32.ofInt _).toInt + 1 = _
    rw [hword (by omega) (by omega)]
    omega
  · exact hword (by omega) (by omega)
  · exact hword (by omega) (by omega)
  · exact hword (by omega) (by omega)
  · exact hword (by omega) (by omega)
  · exact hword (by omega) (by omega)
  · exact hword (by omega) (by omega)

theorem fixed_localTime_eq_some_iff :
    (fixed offset name).localTime t = some told ↔
      FitsInt32 (yearOf ((t + offset) / daySeconds) - 1900) ∧
        fixedTime offset name (t + offset) = told := by
  unfold fixed withLocalTime
  by_cases h : FitsInt32 (yearOf ((t + offset) / daySeconds) - 1900)
  · simp [h]
  · simp [h]

theorem fixed_localTime_eq_none_iff :
    (fixed offset name).localTime t = none ↔
      ¬ FitsInt32 (yearOf ((t + offset) / daySeconds) - 1900) := by
  unfold fixed withLocalTime
  by_cases h : FitsInt32 (yearOf ((t + offset) / daySeconds) - 1900)
  · simp [h]
  · simp [h]

theorem fixed_hasOffset (h : FitsInt32 offset) : (fixed offset name).HasOffset fun _ => offset := by
  intro t told htold
  obtain ⟨-, rfl⟩ := fixed_localTime_eq_some_iff.mp htold
  obtain ⟨hlow, hhigh⟩ := h
  exact Int64.toInt_ofInt_of_le (by omega) (by omega)

theorem fixed_breaksDown (h : FitsInt32 offset) : (fixed offset name).BreaksDown := by
  intro t told htold
  rw [fixed_hasOffset h htold]
  obtain ⟨hyear, rfl⟩ := fixed_localTime_eq_some_iff.mp htold
  exact shows_fixedTime hyear

theorem fixed_keepsOffset (h : FitsInt32 offset) : (fixed offset name).KeepsOffset offset where
  breaksDown := fixed_breaksDown h
  hasOffset := fixed_hasOffset h
  countsYears := fun _ hrefused => .inr (fixed_localTime_eq_none_iff.mp hrefused)
  fits := h

theorem fixed_moderate (h : FitsInt32 offset) : (fixed offset name).Moderate :=
  (fixed_keepsOffset h).moderate

/-! ## A few answers -/

/-- A host that knows the local times of a few instants. -/
def telling (answers : List (Int × HostTime)) : Host :=
  withLocalTime fun t => (answers.find? (·.1 = t)).map Prod.snd

variable {answers : List (Int × HostTime)}

theorem mem_of_telling (h : (telling answers).localTime t = some told) : (t, told) ∈ answers := by
  obtain ⟨answer, hfound, rfl⟩ := Option.map_eq_some_iff.mp h
  have ht : answer.1 = t := by simpa using List.find?_some hfound
  rw [← ht]
  exact List.mem_of_find?_eq_some hfound

/-- What holds of each answer is promised. -/
theorem telling_forall {P : Int → HostTime → Prop} (h : ∀ answer ∈ answers, P answer.1 answer.2)
    ⦃t : Int⦄ ⦃told : HostTime⦄ (htold : (telling answers).localTime t = some told) : P t told :=
  h _ (mem_of_telling htold)

/-- What a host tells shows a moment of the clock if each of its numbers does. -/
instance (seconds : Int) : Decidable (told.Shows seconds) :=
  decidable_of_iff
    (told.year.toInt + 1900 = (Date.ofDay (seconds / daySeconds)).year ∧
      told.month.toInt + 1 = (Date.ofDay (seconds / daySeconds)).month ∧
      told.day.toInt = (Date.ofDay (seconds / daySeconds)).day ∧
      told.hour.toInt = seconds % daySeconds / 3600 ∧ told.minute.toInt = seconds % 3600 / 60 ∧
      told.second.toInt = seconds % 60 ∧ told.weekday.toInt = (seconds / daySeconds + 4) % 7 ∧
      told.yearDay.toInt = dayOfYear (seconds / daySeconds))
    ⟨fun ⟨hyear, hmonth, hday, hhour, hminute, hsecond, hweekday, hyearDay⟩ =>
      ⟨hyear, hmonth, hday, hhour, hminute, hsecond, hweekday, hyearDay⟩,
      fun h => ⟨h.year, h.month, h.day, h.hour, h.minute, h.second, h.weekday, h.yearDay⟩⟩

theorem telling_breaksDown
    (h : ∀ answer ∈ answers, answer.2.Shows (answer.1 + answer.2.offset.toInt)) :
    (telling answers).BreaksDown := telling_forall h

theorem telling_moderate (h : ∀ answer ∈ answers, FitsInt32 answer.2.offset.toInt) :
    (telling answers).Moderate := telling_forall (P := fun _ told => FitsInt32 told.offset.toInt) h

/-- A host of the southern hemisphere in the year 2018. Daylight saving time is in effect in January,
and the clock is turned back on the first of April. -/
def southern : Host := telling [
  (1514764800, ⟨118, 0, 1, 11, 0, 0, 1, 0, 1, 39600, some "AEDT".toList⟩),
  (1514980800, ⟨118, 0, 3, 23, 0, 0, 3, 2, 1, 39600, some "AEDT".toList⟩),
  (1522510200, ⟨118, 3, 1, 2, 30, 0, 0, 90, 1, 39600, some "AEDT".toList⟩),
  (1522513800, ⟨118, 3, 1, 2, 30, 0, 0, 90, 0, 36000, some "AEST".toList⟩),
  (1530543600, ⟨118, 6, 3, 1, 0, 0, 2, 183, 0, 36000, some "AEST".toList⟩),
  (1530619200, ⟨118, 6, 3, 22, 0, 0, 2, 183, 0, 36000, some "AEST".toList⟩)]

theorem southern_breaksDown : southern.BreaksDown := telling_breaksDown (by decide +kernel)

theorem southern_moderate : southern.Moderate := telling_moderate (by decide +kernel)

end Host

end Datestamp
