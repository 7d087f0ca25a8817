import Datestamp.Proofs.Field.Families
import Datestamp.Proofs.Format.DefaultLine

/-!
# What the default line tells

The default line of a stamp can be read back: date and time of day, whatever numbers their fields
hold, and the offset in effect up to its minutes. It tells nothing else of the stamp or of its zone.
So two default lines are equal exactly if all of this is the same (`stampLine_default_eq_iff`).
-/

namespace Datestamp

/-- Two offsets with the same sign, hour and minute; their seconds are not shown. -/
structure ClockOffset.SameMinute (o p : ClockOffset) : Prop where
  sign : o.sign = p.sign
  hour : o.hour = p.hour
  minute : o.minute = p.minute

/-- The fields show the local time itself, and the offset that the zone has in effect. -/
theorem Fields.eq_of_of {time : LocalTime} {zone : Zone} {fs : Fields}
    (h : Fields.of time zone = .ok fs) :
    fs.time = time ∧ fs.effective = zone.effective time.daylight := by
  rw [Fields.of] at h
  cases hincrement : zone.increment time.daylight with
  | error fault =>
      rw [hincrement] at h
      cases h
  | ok increment =>
      rw [hincrement] at h
      obtain rfl := Except.ok.inj h
      exact ⟨rfl, rfl⟩

namespace Format

variable {fs gs : Fields}

/-- Nothing else goes into the default line. -/
theorem meaning_default_congr (hclock : fs.time.SameClock gs.time)
    (hoffset : fs.effective.SameMinute gs.effective) : meaning fs default = meaning gs default := by
  rw [meaning_default, meaning_default]
  simp only [Fields.timeText, ClockOffset.partText, hclock.year, hclock.month, hclock.day,
    hclock.hour, hclock.minute, hclock.second, hoffset.sign, hoffset.hour, hoffset.minute]

theorem meaning_default_eq_iff (hf : fs.effective.minute.toNat < 60)
    (hg : gs.effective.minute.toNat < 60) :
    meaning fs default = meaning gs default ↔
      fs.time.SameClock gs.time ∧ fs.effective.SameMinute gs.effective := by
  constructor
  · intro h
    obtain ⟨hclock, hsign, hhour, hminute⟩ := meaning_default_inj hf hg h
    exact ⟨hclock, hsign, hhour, hminute⟩
  · rintro ⟨hclock, hoffset⟩
    exact meaning_default_congr hclock hoffset

end Format

/-- **What the default line tells.** Wherever the fields of two stamps can be built, both have a
default line, and the two lines are equal exactly if date and time of day are the same and the
offsets in effect have the same sign, hour and minute. -/
theorem stampLine_default_eq_iff {time time' : LocalTime} {zone zone' : Zone} {fs gs : Fields}
    (hfs : Fields.of time zone = .ok fs) (hgs : Fields.of time' zone' = .ok gs) :
    ∃ line line', stampLine Format.default time zone = .ok line ∧
      stampLine Format.default time' zone' = .ok line' ∧
      (line = line' ↔ time.SameClock time' ∧
        (zone.effective time.daylight).SameMinute (zone'.effective time'.daylight)) := by
  refine ⟨_, _, stampLine_of_fields hfs _, stampLine_of_fields hgs _, ?_⟩
  obtain ⟨rfl, heffective⟩ := Fields.eq_of_of hfs
  obtain ⟨rfl, heffective'⟩ := Fields.eq_of_of hgs
  rw [← heffective, ← heffective']
  apply Format.meaning_default_eq_iff
  · rw [heffective, Zone.effective_eq]
    exact ClockOffset.minute_lt _
  · rw [heffective', Zone.effective_eq]
    exact ClockOffset.minute_lt _

/-- Two stamps before the year 0, with a minute of three digits and different names, statuses and
standard offsets. Their offsets in effect are 59 seconds apart, and they have one default line. -/
theorem stampLine_default_eq_iff_before_year_zero :
    let time : LocalTime := ⟨-44, 3, 15, 7, 100, 9, 4, 74, none, .inactive, -5400⟩
    let time' : LocalTime := ⟨-44, 3, 15, 7, 100, 9, 0, 1, some "XDT".toList, .active, 0⟩
    let zone : Zone := ⟨-5400, none, "XST".toList, "XST".toList⟩
    let zone' : Zone := ⟨3600, some (-5459), "XST".toList, "XDT".toList⟩
    (∃ fs gs, Fields.of time zone = .ok fs ∧ Fields.of time' zone' = .ok gs) ∧
      ∃ line, stampLine Format.default time zone = .ok line ∧
        stampLine Format.default time' zone' = .ok line := by
  intro time time' zone zone'
  have hfields : ∃ fs gs, Fields.of time zone = .ok fs ∧ Fields.of time' zone' = .ok gs :=
    ⟨_, _, rfl, rfl⟩
  obtain ⟨fs, gs, hfs, hgs⟩ := hfields
  obtain ⟨line, line', hline, hline', hiff⟩ := stampLine_default_eq_iff hfs hgs
  obtain rfl := hiff.mpr ⟨⟨rfl, rfl, rfl, rfl, rfl, rfl⟩, ⟨by decide, by decide, by decide⟩⟩
  exact ⟨⟨fs, gs, hfs, hgs⟩, line, hline, hline'⟩

end Datestamp
