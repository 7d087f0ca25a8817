import Datestamp.Proofs.Format.DefaultLine
import Datestamp.Proofs.Zone.InEffect

/-!
# Distinct instants have distinct default lines

The default line tells the date, the time of day and the offset in effect. On a host that breaks
instants down, date and time of day are those of the instant moved by the offset, and tell no other
moment of the clock (`LocalTime.Shows.sameClock_iff`). An offset of whole minutes is known from its
sign, hour and minute. So the line tells the instant. Where a clock is turned back, an hour is shown
twice, and the offset tells its two passes apart.
-/

namespace Datestamp

/-! ## The clock shows one moment -/

open Calendar in
theorem LocalTime.Shows.sameClock_iff {a b : LocalTime} {s t : Int} (ha : a.Shows s)
    (hb : b.Shows t) : a.SameClock b ↔ s = t := by
  constructor
  · intro h
    have hdate : a.date = b.date := by
      ext
      · exact h.year
      · exact h.month
      · exact h.day
    have hday : s / daySeconds = t / daySeconds := by
      apply Date.ofDay_inj
      rw [← ha.date, ← hb.date, hdate]
    have hhour : s % daySeconds / 3600 = t % daySeconds / 3600 := by
      rw [← ha.hour, ← hb.hour, h.hour]
    have hminute : s % 3600 / 60 = t % 3600 / 60 := by
      rw [← ha.minute, ← hb.minute, h.minute]
    have hsecond : s % 60 = t % 60 := by
      rw [← ha.second, ← hb.second, h.second]
    unfold daySeconds at hday hhour
    omega
  · rintro rfl
    have hdate := ha.date.trans hb.date.symm
    exact ⟨congrArg Date.year hdate, congrArg Date.month hdate, congrArg Date.day hdate,
      Int.ofNat_inj.mp (ha.hour.trans hb.hour.symm),
      Int.ofNat_inj.mp (ha.minute.trans hb.minute.symm),
      Int.ofNat_inj.mp (ha.second.trans hb.second.symm)⟩

/-! ## Offsets of whole minutes -/

namespace ClockOffset

theorem second_ofSeconds {seconds : Int} (h : 60 ∣ seconds) : (ofSeconds seconds).second = 0 := by
  have hzero : seconds.natAbs % 3600 % 60 = 0 := by omega
  simp only [ofSeconds, hzero]
  rfl

theorem eq_of_minutes {a b : Int} (ha : 60 ∣ a) (hb : 60 ∣ b) (hla : a.natAbs < limit)
    (hlb : b.natAbs < limit) (hsign : (ofSeconds a).sign = (ofSeconds b).sign)
    (hhour : (ofSeconds a).hour = (ofSeconds b).hour)
    (hminute : (ofSeconds a).minute = (ofSeconds b).minute) : a = b := by
  have hsecond : (ofSeconds a).second = (ofSeconds b).second := by
    rw [second_ofSeconds ha, second_ofSeconds hb]
  calc a
    _ = (ofSeconds a).toSeconds := (toSeconds_ofSeconds hla).symm
    _ = (ofSeconds b).toSeconds := by
        simp only [toSeconds, magnitude, hsign, hhour, hminute, hsecond]
    _ = b := toSeconds_ofSeconds hlb

end ClockOffset

/-- Offsets are whole minutes. -/
def Host.WholeMinutes (host : Host) : Prop :=
  ∀ ⦃t told⦄, host.localTime t = some told → 60 ∣ told.offset.toInt

variable {host : Host}

theorem Host.WholeMinutes.dvd {t : Int} {time : LocalTime} (hhost : host.WholeMinutes)
    (h : LocalTime.resolve host t = .ok time) : 60 ∣ time.utcOffset := by
  obtain ⟨told, htold, -, rfl⟩ := LocalTime.resolve_eq_ok_iff.mp h
  exact hhost htold

/-! ## The line tells the instant -/

/-- Equal default lines show the same clock and the same offset. -/
theorem eq_of_meaning_default {t u : Int} {a b : LocalTime} {name name' : Text}
    {base increment base' increment' : ClockOffset} (hcalendar : host.BreaksDown)
    (hmoderate : host.Moderate) (hminutes : host.WholeMinutes)
    (ha : LocalTime.resolve host t = .ok a) (hb : LocalTime.resolve host u = .ok b)
    (h : Format.meaning ⟨a, name, base, increment, .ofSeconds a.utcOffset⟩ Format.default =
      Format.meaning ⟨b, name', base', increment', .ofSeconds b.utcOffset⟩ Format.default) :
    t = u := by
  have below : ∀ {t : Int} {time : LocalTime}, LocalTime.resolve host t = .ok time →
      time.utcOffset.natAbs < ClockOffset.limit := by
    intro t time htime
    obtain ⟨hlow, hhigh⟩ := hmoderate.fits htime
    unfold ClockOffset.limit
    omega
  obtain ⟨hclock, hsign, hhour, hminute⟩ := Format.meaning_default_inj
    (ClockOffset.minute_lt _) (ClockOffset.minute_lt _) h
  have hlocal := ((hcalendar.shows ha).sameClock_iff (hcalendar.shows hb)).mp hclock
  have hoffset : a.utcOffset = b.utcOffset :=
    ClockOffset.eq_of_minutes (hminutes.dvd ha) (hminutes.dvd hb) (below ha) (below hb)
      hsign hhour hminute
  omega

theorem exists_default_lines {t u : Int} {seen seen' : LocalTime × Zone}
    (hcalendar : host.BreaksDown) (hmoderate : host.Moderate) (hminutes : host.WholeMinutes)
    (ht : LocalTime.observe host t = .ok seen) (hu : LocalTime.observe host u = .ok seen') :
    ∃ line line', instantLine host Format.default t = .ok line ∧
      instantLine host Format.default u = .ok line' ∧ (line = line' → t = u) := by
  obtain ⟨base, increment, hline⟩ := instantLine_of_observe hmoderate ht
  obtain ⟨base', increment', hline'⟩ := instantLine_of_observe hmoderate hu
  exact ⟨_, _, hline _, hline' _, eq_of_meaning_default hcalendar hmoderate hminutes
    (LocalTime.resolve_of_observe ht) (LocalTime.resolve_of_observe hu)⟩

/-- **Distinct instants have distinct default lines.** Every observed instant has one, and no other
instant has the same. In particular two instants that show the same clock, as in an hour that is
passed through twice when daylight saving time ends, have two lines. -/
theorem instantLine_default_distinct (hcalendar : host.BreaksDown) (hmoderate : host.Moderate)
    (hminutes : host.WholeMinutes) :
    (∀ t u seen seen', LocalTime.observe host t = .ok seen →
      LocalTime.observe host u = .ok seen' →
      ∃ line line', instantLine host Format.default t = .ok line ∧
        instantLine host Format.default u = .ok line' ∧ (line = line' → t = u)) ∧
      ∀ t u seen seen', LocalTime.observe host t = .ok seen →
        LocalTime.observe host u = .ok seen' →
        t + seen.1.utcOffset = u + seen'.1.utcOffset → t ≠ u →
        seen.1.SameClock seen'.1 ∧
          instantLine host Format.default t ≠ instantLine host Format.default u := by
  constructor
  · intro t u seen seen' ht hu
    exact exists_default_lines hcalendar hmoderate hminutes ht hu
  · intro t u seen seen' ht hu hlocal hne
    constructor
    · have hseen := hcalendar.shows (LocalTime.resolve_of_observe ht)
      have hseen' := hcalendar.shows (LocalTime.resolve_of_observe hu)
      exact (hseen.sameClock_iff hseen').mpr hlocal
    · intro heq
      obtain ⟨line, line', hline, hline', hsame⟩ :=
        exists_default_lines hcalendar hmoderate hminutes ht hu
      rw [hline, hline'] at heq
      exact hne (hsame (Except.ok.inj heq))

/-- Half past two on the first Sunday of April, before and after the clock is turned back. -/
theorem instantLine_default_distinct_in_april :
    (Host.southern.BreaksDown ∧ Host.southern.Moderate ∧ Host.southern.WholeMinutes) ∧
      ∃ seen seen' line line',
        LocalTime.observe .southern 1522510200 = .ok seen ∧
        LocalTime.observe .southern 1522513800 = .ok seen' ∧ seen.1.SameClock seen'.1 ∧
        instantLine .southern Format.default 1522510200 = .ok line ∧
        instantLine .southern Format.default 1522513800 = .ok line' ∧ line ≠ line' := by
  have hcalendar := Host.southern_breaksDown
  have hmoderate := Host.southern_moderate
  have hminutes : Host.southern.WholeMinutes :=
    Host.telling_forall (P := fun _ told => 60 ∣ told.offset.toInt) (by decide +kernel)
  have before : LocalTime.observe .southern 1522510200 =
      .ok (⟨2018, 4, 1, 2, 30, 0, 6, 91, some "AEDT".toList, .active, 39600⟩,
        ⟨36000, some 39600, "AEST".toList, "AEDT".toList⟩) :=
    eq_ok_of_toOption (by decide +kernel)
  have after : LocalTime.observe .southern 1522513800 =
      .ok (⟨2018, 4, 1, 2, 30, 0, 6, 91, some "AEST".toList, .inactive, 36000⟩,
        ⟨36000, some 39600, "AEST".toList, "AEDT".toList⟩) :=
    eq_ok_of_toOption (by decide +kernel)
  obtain ⟨distinct, turned⟩ := instantLine_default_distinct hcalendar hmoderate hminutes
  obtain ⟨line, line', hline, hline', -⟩ := distinct _ _ _ _ before after
  obtain ⟨hclock, hne⟩ := turned _ _ _ _ before after (by decide) (by decide)
  refine ⟨⟨hcalendar, hmoderate, hminutes⟩, _, _, line, line', before, after, hclock, hline,
    hline', ?_⟩
  rintro rfl
  exact hne (hline.trans hline'.symm)

end Datestamp
