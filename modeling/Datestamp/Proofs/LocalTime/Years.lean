import Datestamp.Proofs.Calendar.Counting
import Datestamp.Proofs.Host.Known

/-!
# Which years can be resolved

A host counts years from 1900, in words of 32 bits. A local time counts them from the year 0, in
words of the same size, so the last 1900 years that a host can count are too great for it. Among the
instants that the host breaks down the year alone decides (`served_iff_year_not_too_great`): the
resolver gives a local time where the year fits the word, and aborts in those last years
(`last_years_abort`). What the host refuses is reported as a problem.
-/

namespace Datestamp

namespace Calendar

/-- A moment of a clock, in seconds, lies in a year: not before its first day, and before the first
day of the year after it. -/
structure InYear (seconds year : Int) : Prop where
  begun : 86400 * Date.toDay ⟨year, 1, 1⟩ ≤ seconds
  not_over : seconds < 86400 * Date.toDay ⟨year + 1, 1, 1⟩

/-- A moment lies in exactly one year, that of its day. -/
theorem inYear_iff {seconds year : Int} :
    InYear seconds year ↔ yearOf (seconds / daySeconds) = year := by
  rw [yearOf_eq_iff]
  unfold daySeconds
  constructor
  · rintro ⟨hbegun, hover⟩
    rw [Date.toDay_newYear] at hbegun hover
    omega
  · intro h
    constructor
    · rw [Date.toDay_newYear]
      omega
    · rw [Date.toDay_newYear]
      omega

end Calendar

namespace LocalTime

open Calendar

variable {host : Host} {offset : Int → Int} {instant year : Int}

/-- The host breaks an instant down, but a local time cannot hold its year. -/
def TooGreat (host : Host) (instant year : Int) : Prop :=
  host.localTime instant ≠ none ∧ 2147483647 < year

/-! ## The resolver follows the year -/

/-- Of the years that the host counts, those too early for a local time do not exist. -/
theorem fitsInt32_iff {told : HostTime} {seconds : Int} (h : told.Shows seconds)
    (hyear : InYear seconds year) : FitsInt32 year ↔ year ≤ 2147483647 := by
  have hcounted : told.year.toInt + 1900 = year := h.year.trans (inYear_iff.mp hyear)
  have hlow := told.year.le_toInt
  unfold FitsInt32
  omega

theorem resolve_of_told (hcalendar : host.BreaksDown) (hoffset : host.HasOffset offset)
    (hyear : InYear (instant + offset instant) year) {told : HostTime}
    (htold : host.localTime instant = some told) :
    (year ≤ 2147483647 ∧ ∃ time, resolve host instant = .ok time ∧ time.year = year) ∨
      2147483647 < year ∧ resolve host instant = .error (.fault (.overflow .add)) := by
  have hshows := hcalendar.shows_of_hasOffset hoffset htold
  have hfits : SumsFit told ↔ year ≤ 2147483647 := by
    rw [hshows.sumsFit_iff, inYear_iff.mp hyear, fitsInt32_iff hshows hyear]
  by_cases hle : year ≤ 2147483647
  · have hok : resolve host instant = .ok (renumbered told) :=
      resolve_eq_ok_iff.mpr ⟨told, htold, hfits.mpr hle, rfl⟩
    exact .inl ⟨hle, _, hok, hshows.renumbered.year.trans (inYear_iff.mp hyear)⟩
  · have hfault : resolve host instant = .error (.fault (.overflow .add)) :=
      resolve_eq_fault_iff.mpr ⟨⟨told, htold, mt hfits.mp hle⟩, rfl⟩
    exact .inr ⟨Int.not_le.mp hle, hfault⟩

/-- The three outcomes: refused by the host, given a local time of the year, or aborted. -/
theorem resolve_cases (hcalendar : host.BreaksDown) (hoffset : host.HasOffset offset)
    (hyear : InYear (instant + offset instant) year) :
    (host.localTime instant = none ∧
        resolve host instant = .error (.problem (.unrepresentable instant))) ∨
      (host.localTime instant ≠ none ∧ ¬ TooGreat host instant year ∧
        ∃ time, resolve host instant = .ok time ∧ time.year = year) ∨
      (TooGreat host instant year ∧
        resolve host instant = .error (.fault (.overflow .add))) := by
  cases htold : host.localTime instant with
  | none => exact .inl ⟨rfl, resolve_of_none htold⟩
  | some told =>
      have hne : host.localTime instant ≠ none := by
        rw [htold]
        nofun
      right
      rw [← htold]
      rcases resolve_of_told hcalendar hoffset hyear htold with ⟨hle, htime⟩ | ⟨hlt, hfault⟩
      · exact .inl ⟨hne, fun hgreat => Int.not_le.mpr hgreat.2 hle, htime⟩
      · exact .inr ⟨⟨hne, hlt⟩, hfault⟩

/-- **What becomes of an instant, by its year.** It is given a local time of that year, or reported
as a problem, exactly if it is not one that the host breaks down and whose year is too great; then it
ends in an overflow. It is reported exactly if the host refuses it, and the message tells the
instant. On a host that refuses exactly the years that it cannot count from 1900 in its word, the
overflow comes in the last 1900 years that it can count. -/
theorem served_iff_year_not_too_great (hcalendar : host.BreaksDown)
    (hoffset : host.HasOffset offset) (hyear : InYear (instant + offset instant) year) :
    ((∃ time, resolve host instant = .ok time ∧ time.year = year) ∨
        resolve host instant = .error (.problem (.unrepresentable instant)) ↔
      ¬ TooGreat host instant year) ∧
      (resolve host instant = .error (.fault (.overflow .add)) ↔ TooGreat host instant year) ∧
      (resolve host instant = .error (.problem (.unrepresentable instant)) ↔
        host.localTime instant = none) ∧
      (Problem.unrepresentable instant).message =
        "Cannot convert timestamp ".toList ++ Decimal.numeral instant ++
          " to local time".toList ∧
      ((host.localTime instant = none ↔ ¬ FitsInt32 (year - 1900)) →
        (resolve host instant = .error (.fault (.overflow .add)) ↔
          2147483648 ≤ year ∧ year ≤ 2147485547)) := by
  have hproblem : resolve host instant = .error (.problem (.unrepresentable instant)) ↔
      host.localTime instant = none := by
    rw [resolve_eq_problem_iff]
    exact and_iff_left rfl
  have hfault : resolve host instant = .error (.fault (.overflow .add)) ↔
      TooGreat host instant year := by
    rcases resolve_cases hcalendar hoffset hyear with
      ⟨hnone, hresolve⟩ | ⟨-, hnot, time, hresolve, -⟩ | ⟨hgreat, hresolve⟩
    · exact iff_of_false (by rw [hresolve]; nofun) fun hgreat => hgreat.1 hnone
    · exact iff_of_false (by rw [hresolve]; nofun) hnot
    · exact iff_of_true hresolve hgreat
  refine ⟨?_, hfault, hproblem, rfl, ?_⟩
  · rcases resolve_cases hcalendar hoffset hyear with
      ⟨hnone, hresolve⟩ | ⟨-, hnot, hok⟩ | ⟨hgreat, hresolve⟩
    · exact iff_of_true (.inr hresolve) fun hgreat => hgreat.1 hnone
    · exact iff_of_true (.inl hok) hnot
    · refine iff_of_false ?_ (not_not_intro hgreat)
      rw [hresolve]
      rintro (⟨_, hok, -⟩ | hreported)
      · cases hok
      · cases hreported
  · intro hrefuses
    rw [hfault, TooGreat, Ne, hrefuses]
    unfold FitsInt32
    omega

/-- The last second of the year 2147483647 and the first of the next one. -/
theorem served_iff_year_not_too_great_at_the_turn :
    let host := Host.fixed 0 "UTC".toList
    (host.BreaksDown ∧ host.HasOffset fun _ => 0) ∧
      (InYear (67767976233532799 + 0) 2147483647 ∧
        ∃ time, resolve host 67767976233532799 = .ok time ∧ time.year = 2147483647) ∧
      InYear (67767976233532800 + 0) 2147483648 ∧
        resolve host 67767976233532800 = .error (.fault (.overflow .add)) := by
  intro host
  have hcalendar : host.BreaksDown := Host.fixed_breaksDown (by decide)
  have hoffset : host.HasOffset fun _ => 0 := Host.fixed_hasOffset (by decide)
  have hlast : InYear (67767976233532799 + 0) 2147483647 := inYear_iff.mpr (by decide +kernel)
  have hfirst : InYear (67767976233532800 + 0) 2147483648 := inYear_iff.mpr (by decide +kernel)
  obtain ⟨hserved, -, hproblem, -⟩ := served_iff_year_not_too_great hcalendar hoffset hlast
  obtain ⟨-, -, -, -, hoverflow⟩ := served_iff_year_not_too_great hcalendar hoffset hfirst
  have hrefuses : host.localTime 67767976233532800 = none ↔ ¬ FitsInt32 (2147483648 - 1900) :=
    iff_of_false (by decide +kernel) (by decide)
  refine ⟨⟨hcalendar, hoffset⟩, ⟨hlast, ?_⟩, hfirst, (hoverflow hrefuses).mpr (by decide)⟩
  rcases hserved.mpr (fun hgreat => absurd hgreat.2 (by decide)) with hok | hreported
  · exact hok
  · exact absurd (hproblem.mp hreported) (by decide +kernel)

/-- A year that the host can count and a local time cannot hold is not reported as a problem. -/
theorem last_years_abort :
    let host := Host.fixed 0 "UTC".toList
    (FitsInt64 67767976233532800 ∧ host.BreaksDown ∧ host.HasOffset fun _ => 0) ∧
      (∀ t year, InYear (t + 0) year →
        (host.localTime t = none ↔ ¬ FitsInt32 (year - 1900))) ∧
      InYear (67767976233532800 + 0) 2147483648 ∧
      (∀ time, resolve host 67767976233532800 ≠ .ok time) ∧
      resolve host 67767976233532800 ≠ .error (.problem (.unrepresentable 67767976233532800)) ∧
      resolve host 67767976233532800 = .error (.fault (.overflow .add)) := by
  intro host
  have habort : resolve host 67767976233532800 = .error (.fault (.overflow .add)) := by
    rw [resolve_eq_fault_iff]
    exact ⟨⟨_, rfl, fun hfits => absurd hfits.year (by decide +kernel)⟩, rfl⟩
  refine ⟨⟨by decide, Host.fixed_breaksDown (by decide), Host.fixed_hasOffset (by decide)⟩, ?_,
    inYear_iff.mpr (by decide +kernel), ?_, ?_, habort⟩
  · intro t year hyear
    rw [← inYear_iff.mp hyear]
    exact Host.fixed_localTime_eq_none_iff
  · intro time hok
    rw [habort] at hok
    cases hok
  · intro hproblem
    rw [habort] at hproblem
    cases hproblem

end LocalTime

end Datestamp
