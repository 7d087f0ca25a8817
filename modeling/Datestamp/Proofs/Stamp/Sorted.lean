import Datestamp.Proofs.Format.DefaultLine
import Datestamp.Proofs.Placeholder.Order
import Datestamp.Proofs.Zone.InEffect

/-!
# Local times sort like their instants

A later moment of the clock shows a later date, or a later time of the same day
(`LocalTime.Shows.earlier`). In the years from 0 to 9999 each number of a line takes up the width
that it is padded to, so lines of date and time of day are ordered character by character as the
moments are as numbers. Where one offset is in effect at all times, these are ordered as the instants
are (`clock_lines_sorted`). The years lie far inside those that can be counted, so a host that
refuses nothing else has a line for each of these instants.
-/

namespace Datestamp

/-! ## Later moments show later clocks -/

namespace LocalTime

open Calendar

/-- Local times are compared by their dates, then by the time of day. -/
def Earlier (a b : LocalTime) : Prop :=
  a.year < b.year ∨ a.year = b.year ∧ (a.month < b.month ∨ a.month = b.month ∧
    (a.day < b.day ∨ a.day = b.day ∧ (a.hour < b.hour ∨ a.hour = b.hour ∧
      (a.minute < b.minute ∨ a.minute = b.minute ∧ a.second < b.second))))

theorem Earlier.of_date {a b : LocalTime} (h : a.date.Earlier b.date) : a.Earlier b := by
  rcases h with hyear | ⟨hyear, hmonth | ⟨hmonth, hday⟩⟩
  · exact .inl hyear
  · exact .inr ⟨hyear, .inl hmonth⟩
  · exact .inr ⟨hyear, .inr ⟨hmonth, .inl hday⟩⟩

/-- On one day, hour, minute and second are ordered as the seconds. -/
theorem Shows.clock_lt {a b : LocalTime} {s t : Int} (ha : a.Shows s) (hb : b.Shows t)
    (hday : s / daySeconds = t / daySeconds) (h : s < t) :
    a.hour < b.hour ∨ a.hour = b.hour ∧
      (a.minute < b.minute ∨ a.minute = b.minute ∧ a.second < b.second) := by
  have hhour := ha.hour
  have hhour' := hb.hour
  have hminute := ha.minute
  have hminute' := hb.minute
  have hsecond := ha.second
  have hsecond' := hb.second
  unfold daySeconds at *
  omega

theorem Shows.earlier {a b : LocalTime} {s t : Int} (ha : a.Shows s) (hb : b.Shows t)
    (h : s < t) : a.Earlier b := by
  have hle : s / daySeconds ≤ t / daySeconds := Int.ediv_le_ediv (by decide) (Int.le_of_lt h)
  rcases Int.lt_or_eq_of_le hle with hday | hday
  · apply Earlier.of_date
    rw [ha.date, hb.date]
    exact Date.earlier_ofDay hday
  · have hdate : a.date = b.date := by
      rw [ha.date, hb.date, hday]
    exact .inr ⟨congrArg Date.year hdate, .inr ⟨congrArg Date.month hdate,
      .inr ⟨congrArg Date.day hdate, ha.clock_lt hb hday h⟩⟩⟩

/-! ## Every number fits its width -/

/-- A moment of the clock lies in one of the years that are written in four digits, without a
sign. -/
def HasFourDigitYear (seconds : Int) : Prop :=
  0 ≤ yearOf (seconds / daySeconds) ∧ yearOf (seconds / daySeconds) ≤ 9999

instance (seconds : Int) : Decidable (HasFourDigitYear seconds) :=
  inferInstanceAs (Decidable (_ ∧ _))

/-- A local time of the years that take up four digits. -/
structure FourDigits (time : LocalTime) : Prop where
  year : ∃ year : Nat, time.year = year ∧ year < 10000
  month : time.month < 100
  day : time.day < 100
  hour : time.hour < 100
  minute : time.minute < 100
  second : time.second < 100

theorem Shows.fourDigits {time : LocalTime} {seconds : Int} (h : time.Shows seconds)
    (hyear : HasFourDigitYear seconds) : time.FourDigits := by
  have hvalid : time.date.Valid := by
    rw [h.date]
    exact Date.valid_ofDay _
  have hhour := h.hour
  have hminute := h.minute
  have hsecond := h.second
  rw [HasFourDigitYear, ← h.year] at hyear
  obtain ⟨hlow, hhigh⟩ := hyear
  unfold daySeconds at hhour
  refine ⟨⟨time.year.toNat, ?_, ?_⟩, ?_, ?_, ?_, ?_, ?_⟩
  · omega
  · omega
  · exact Nat.lt_of_le_of_lt hvalid.month.2 (by decide)
  · exact Nat.lt_of_le_of_lt hvalid.day_le (by decide)
  · omega
  · omega
  · omega

end LocalTime

namespace Format

/-- A padded number and a separator: the number decides, or else what follows. -/
theorem field_lt {width m n : Nat} {c : Char} {s t : Text}
    (hm : (Decimal.digits m).length ≤ width) (hn : (Decimal.digits n).length ≤ width)
    (h : m < n ∨ m = n ∧ s < t) :
    Placeholder.zeroPadded width m ++ c :: s < Placeholder.zeroPadded width n ++ c :: t := by
  apply Placeholder.zeroPadded_append_lt hm hn
  rcases h with h | ⟨heq, h⟩
  · exact .inl h
  · exact .inr ⟨heq, List.cons_lt_cons_iff.mpr (.inr ⟨rfl, h⟩)⟩

theorem meaning_clock_lt {fs gs : Fields} (hf : fs.time.FourDigits) (hg : gs.time.FourDigits)
    (h : fs.time.Earlier gs.time) : meaning fs clock < meaning gs clock := by
  obtain ⟨m, hm, hmlt⟩ := hf.year
  obtain ⟨n, hn, hnlt⟩ := hg.year
  have htwo : ∀ {k : Nat}, k < 100 → (Decimal.digits k).length ≤ 2 := Decimal.length_digits_le_two
  have hclock : ∀ es, meaning es clock = meaning es (clock ++ []) := by
    intro es
    rw [List.append_nil]
  rw [hclock fs, hclock gs, meaning_clock_append, meaning_clock_append]
  simp only [Fields.timeText, hm, hn]
  -- field by field, each with the separator behind it
  apply field_lt (Decimal.length_digits_le_four hmlt) (Decimal.length_digits_le_four hnlt)
  rcases h with h | ⟨heq, h⟩
  · exact .inl (by omega)
  refine .inr ⟨by omega, field_lt (htwo hf.month) (htwo hg.month) (h.imp_right ?_)⟩
  rintro ⟨heq, h⟩
  refine ⟨heq, field_lt (htwo hf.day) (htwo hg.day) (h.imp_right ?_)⟩
  rintro ⟨heq, h⟩
  refine ⟨heq, field_lt (htwo hf.hour) (htwo hg.hour) (h.imp_right ?_)⟩
  rintro ⟨heq, h⟩
  refine ⟨heq, field_lt (htwo hf.minute) (htwo hg.minute) (h.imp_right ?_)⟩
  rintro ⟨heq, h⟩
  exact ⟨heq, Placeholder.zeroPadded_append_lt (htwo hf.second) (htwo hg.second) (.inl h)⟩

end Format

/-! ## Every instant of these years has a line -/

variable {host : Host} {offset instant : Int}

namespace LocalTime

open Calendar

/-- Within some thirty million years of 1970, years are far inside a word of 32 bits. -/
theorem natAbs_yearOf_lt {seconds : Int} (h : seconds.natAbs < 1000000000000000) :
    (yearOf (seconds / daySeconds)).natAbs < 1000000000 := by
  have hle := yearStart_yearOf_le (seconds / daySeconds)
  have hlt := lt_yearStart_yearOf_succ (seconds / daySeconds)
  unfold yearStart epoch at hle hlt
  unfold daySeconds at *
  omega

theorem exists_resolve_of_lt (hhost : host.KeepsOffset offset)
    (h : instant.natAbs < 900000000000000) : ∃ time, resolve host instant = .ok time := by
  obtain ⟨hlow, hhigh⟩ := hhost.fits
  have hyear := natAbs_yearOf_lt (show instant.natAbs < _ by omega)
  have hlocal := natAbs_yearOf_lt (show (instant + offset).natAbs < _ by omega)
  have hutcFits : FitsInt32 (yearOf (instant / daySeconds) - 1900) := by
    unfold FitsInt32
    omega
  have hlocalFits : FitsInt32 (yearOf ((instant + offset) / daySeconds) - 1900) := by
    unfold FitsInt32
    omega
  cases htold : host.localTime instant with
  | none =>
      rcases hhost.countsYears htold with hno | hno
      · exact absurd hutcFits hno
      · exact absurd hlocalFits hno
  | some told =>
      have hshows := hhost.breaksDown.shows_of_hasOffset hhost.hasOffset htold
      have hyearFits : FitsInt32 (yearOf ((instant + offset) / daySeconds)) := by
        unfold FitsInt32
        omega
      exact ⟨_, resolve_eq_ok_iff.mpr ⟨told, htold, hshows.sumsFit_iff.mpr hyearFits, rfl⟩⟩

theorem exists_observe_of_lt (hhost : host.KeepsOffset offset)
    (h : instant.natAbs < 800000000000000) :
    ∃ stamp zone, observe host instant = .ok (stamp, zone) := by
  -- the samples are less than an average year away
  have hblock : Zone.blockStart instant ≤ instant ∧
      instant < Zone.blockStart instant + 31557600 := by
    unfold Zone.blockStart Zone.blockSeconds
    omega
  have hhalf : Zone.blockSeconds / 2 = 15778800 := rfl
  obtain ⟨stamp, hstamp⟩ := exists_resolve_of_lt hhost (show instant.natAbs < _ by omega)
  obtain ⟨first, hfirst⟩ := exists_resolve_of_lt hhost
    (show (Zone.blockStart instant).natAbs < _ by omega)
  obtain ⟨second, hsecond⟩ := exists_resolve_of_lt hhost
    (show (Zone.blockStart instant + Zone.blockSeconds / 2).natAbs < _ by omega)
  have hsamples : Zone.Sampled host instant first second :=
    ⟨by unfold FitsInt64; omega, by unfold FitsInt64; omega, hfirst, hsecond⟩
  exact ⟨stamp, _, observe_eq_ok_iff.mpr ⟨hstamp, first, second, hsamples, rfl⟩⟩

theorem natAbs_lt_of_year (hfits : FitsInt32 offset) (h : HasFourDigitYear (instant + offset)) :
    instant.natAbs < 800000000000000 := by
  obtain ⟨hlow, hhigh⟩ := h
  obtain ⟨hleast, hgreatest⟩ := hfits
  have hle := yearStart_yearOf_le ((instant + offset) / daySeconds)
  have hlt := lt_yearStart_yearOf_succ ((instant + offset) / daySeconds)
  unfold yearStart epoch at hle hlt
  unfold daySeconds at *
  omega

end LocalTime

/-! ## The lines in order -/

open LocalTime (HasFourDigitYear)

/-- The line of date and time of day of an instant in a year of four digits. -/
theorem exists_clock_line (hhost : host.KeepsOffset offset)
    (h : HasFourDigitYear (instant + offset)) :
    ∃ fs : Fields, fs.time.Shows (instant + offset) ∧
      instantLine host Format.clock instant = .ok (Format.meaning fs Format.clock) := by
  obtain ⟨stamp, zone, hseen⟩ := LocalTime.exists_observe_of_lt hhost
    (LocalTime.natAbs_lt_of_year hhost.fits h)
  have hstamp := LocalTime.resolve_of_observe hseen
  have hshows := hhost.breaksDown.shows hstamp
  rw [hhost.hasOffset.eq hstamp] at hshows
  obtain ⟨base, increment, hline⟩ := instantLine_of_observe hhost.moderate hseen
  exact ⟨_, hshows, hline Format.clock⟩

theorem clock_line_lt {fs gs : Fields} {s t : Int} (hfs : fs.time.Shows s)
    (hgs : gs.time.Shows t) (hs : HasFourDigitYear s) (ht : HasFourDigitYear t) (h : s < t) :
    Format.meaning fs Format.clock < Format.meaning gs Format.clock :=
  Format.meaning_clock_lt (hfs.fourDigits hs) (hgs.fourDigits ht) (hfs.earlier hgs h)

/-- Texts that follow the order of two numbers tell it. -/
theorem Text.order_iff {a b : Text} {t u : Int} (hlt : t < u → a < b) (heq : t = u → a = b)
    (hgt : u < t → b < a) : (a < b ↔ t < u) ∧ (a = b ↔ t = u) ∧ (b < a ↔ u < t) := by
  have hne : ∀ {c d : Text}, c < d → c ≠ d := by
    rintro c _ h rfl
    exact List.lt_irrefl c h
  rcases Int.lt_trichotomy t u with h | h | h
  · exact ⟨iff_of_true (hlt h) h, iff_of_false (hne (hlt h)) (Int.ne_of_lt h),
      iff_of_false (List.lt_asymm (hlt h)) (Int.lt_asymm h)⟩
  · subst h
    obtain rfl := heq rfl
    exact ⟨iff_of_false (List.lt_irrefl a) (Int.lt_irrefl t), iff_of_true rfl rfl,
      iff_of_false (List.lt_irrefl a) (Int.lt_irrefl t)⟩
  · exact ⟨iff_of_false (List.lt_asymm (hgt h)) (Int.lt_asymm h),
      iff_of_false (hne (hgt h)).symm (Int.ne_of_gt h), iff_of_true (hgt h) h⟩

/-- **Local times sort like their instants.** On a host with one offset at all times, instants of the
years from 0 to 9999 have lines of date and time of day, and these are ordered, character by
character, exactly as the instants are. -/
theorem clock_lines_sorted (hhost : host.KeepsOffset offset) {t u : Int}
    (ht : HasFourDigitYear (t + offset)) (hu : HasFourDigitYear (u + offset)) :
    ∃ line line', instantLine host "%Y-%m-%d %H:%M:%S".toList t = .ok line ∧
      instantLine host "%Y-%m-%d %H:%M:%S".toList u = .ok line' ∧
      (line < line' ↔ t < u) ∧ (line = line' ↔ t = u) ∧ (line' < line ↔ u < t) := by
  obtain ⟨fs, hfs, hline⟩ := exists_clock_line hhost ht
  obtain ⟨gs, hgs, hline'⟩ := exists_clock_line hhost hu
  refine ⟨_, _, hline, hline', Text.order_iff ?_ ?_ ?_⟩
  · intro h
    exact clock_line_lt hfs hgs ht hu (Int.add_lt_add_right h offset)
  · rintro rfl
    exact Except.ok.inj (hline.symm.trans hline')
  · intro h
    exact clock_line_lt hgs hfs hu ht (Int.add_lt_add_right h offset)

/-- The last second of the year 99 and the first of the year 100, five and a half hours ahead. -/
theorem clock_lines_sorted_at_new_year :
    let host := Host.fixed 19800 "IST".toList
    host.KeepsOffset 19800 ∧ ∃ line line',
      instantLine host "%Y-%m-%d %H:%M:%S".toList (-59011479001) = .ok line ∧
      instantLine host "%Y-%m-%d %H:%M:%S".toList (-59011479000) = .ok line' ∧ line < line' := by
  intro host
  have hhost : host.KeepsOffset 19800 := Host.fixed_keepsOffset (by decide)
  obtain ⟨line, line', hline, hline', hlt, -⟩ := clock_lines_sorted hhost
    (t := -59011479001) (u := -59011479000) (by decide +kernel) (by decide +kernel)
  exact ⟨hhost, line, line', hline, hline', hlt.mpr (by decide)⟩

end Datestamp
