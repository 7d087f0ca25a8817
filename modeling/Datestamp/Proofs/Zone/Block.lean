import Datestamp.Proofs.Host.Known
import Datestamp.Zone.Observed

/-!
# The block of an instant

Time is cut into blocks of an average year, and a zone is sampled at the start and in the middle of
the block that holds the instant. Neither need be a number of 64 bits: the block of the least such
number starts before it. But an instant is sampled only after it has been resolved. On a host that
breaks instants down and whose offsets are moderate, its year then keeps the whole block far inside
the word. So nothing but the samples themselves can fail, and the first one that does decides how
(`observe_fails_as_samples_do`).
-/

namespace Datestamp

variable {host : Host} {instant : Int} {stamp : LocalTime} {failure : Failure}

namespace Zone

/-! ## A block holds its instants -/

/-- An instant lies in the block that begins at `start`. Blocks begin at the multiples of 365 days
and six hours. -/
structure InBlock (start instant : Int) : Prop where
  multiple : 31557600 ∣ start
  begun : start ≤ instant
  not_over : instant < start + 31557600

/-- An instant lies in one block only, before 1970 as well as after. -/
theorem inBlock_iff {start : Int} : InBlock start instant ↔ blockStart instant = start := by
  unfold blockStart blockSeconds
  constructor
  · rintro ⟨hmultiple, hbegun, hover⟩
    omega
  · rintro rfl
    exact ⟨Int.dvd_mul_left _ _, by omega, by omega⟩

/-- The samples are those of the block, and the stamp that they complete is the only other thing
that a zone is observed from. -/
theorem observe_congr {other : Int} (h : blockStart other = blockStart instant)
    (stamp : LocalTime) : observe host stamp other = observe host stamp instant := by
  unfold observe
  rw [h]

/-! ## Its samples are within the word -/

end Zone

open Calendar in
/-- What can be resolved is far from the bounds of a 64-bit word. -/
theorem LocalTime.natAbs_lt_of_resolve {time : LocalTime} (hcalendar : host.BreaksDown)
    (hmoderate : host.Moderate) (h : resolve host instant = .ok time) :
    instant.natAbs < 70000000000000000 := by
  obtain ⟨hlow, hhigh⟩ := hmoderate.fits h
  obtain ⟨told, -, hfits, rfl⟩ := resolve_eq_ok_iff.mp h
  obtain ⟨hlowYear, hhighYear⟩ := hfits.year
  have hyear := (hcalendar.shows h).year
  have hle := yearStart_yearOf_le ((instant + (renumbered told).utcOffset) / daySeconds)
  have hlt := lt_yearStart_yearOf_succ ((instant + (renumbered told).utcOffset) / daySeconds)
  rw [← hyear] at hle hlt
  have hcounted : (renumbered told).year = told.year.toInt + firstYear := rfl
  unfold yearStart epoch at hle hlt
  unfold daySeconds at hle hlt
  omega

namespace Zone

/-- The block of a resolved instant is far from the bounds of the word. -/
theorem fitsInt64_samples {time : LocalTime} (hcalendar : host.BreaksDown)
    (hmoderate : host.Moderate) (h : LocalTime.resolve host instant = .ok time) :
    FitsInt64 (blockStart instant) ∧ FitsInt64 (blockStart instant + blockSeconds / 2) := by
  have hlt := LocalTime.natAbs_lt_of_resolve hcalendar hmoderate h
  obtain ⟨-, hbegun, hover⟩ := inBlock_iff.mpr (rfl : blockStart instant = _)
  unfold FitsInt64 blockSeconds
  constructor <;> omega

/-! ## The first failure decides -/

/-- Once start and middle of the block fit the word, only the samples are left to compute. -/
theorem observe_eq_bind (hstart : FitsInt64 (blockStart instant))
    (hmiddle : FitsInt64 (blockStart instant + blockSeconds / 2)) :
    observe host stamp instant = do
      let first ← LocalTime.resolve host (blockStart instant)
      let second ← LocalTime.resolve host (blockStart instant + blockSeconds / 2)
      return ofSamples stamp [first, second] := by
  have hs : (checked FitsInt64 .multiply (blockStart instant)).mapError Failure.fault = .ok _ :=
    mapError_eq_ok (checked_eq_ok hstart)
  have hm : (checked FitsInt64 .add (blockStart instant + blockSeconds / 2)).mapError Failure.fault =
      .ok _ := mapError_eq_ok (checked_eq_ok hmiddle)
  unfold observe
  rw [hs]
  -- the second check stands behind the first sample
  show (LocalTime.resolve host (blockStart instant) >>= fun first => _ >>= _) = _
  rw [hm]
  rfl

/-- Of the two samples, taken in order, the first that cannot be resolved fails in this way. -/
def SampleFails (host : Host) (start middle : Int) (failure : Failure) : Prop :=
  LocalTime.resolve host start = .error failure ∨
    (∃ first, LocalTime.resolve host start = .ok first) ∧
      LocalTime.resolve host middle = .error failure

theorem observe_eq_error_iff (hstart : FitsInt64 (blockStart instant))
    (hmiddle : FitsInt64 (blockStart instant + blockSeconds / 2)) :
    observe host stamp instant = .error failure ↔
      SampleFails host (blockStart instant) (blockStart instant + blockSeconds / 2) failure := by
  rw [observe_eq_bind hstart hmiddle, SampleFails]
  cases hfirst : LocalTime.resolve host (blockStart instant) with
  | error e => simp [bind, Except.bind]
  | ok first =>
      cases hsecond : LocalTime.resolve host (blockStart instant + blockSeconds / 2) with
      | error e => simp [bind, Except.bind]
      | ok second => simp [bind, Except.bind, pure, Except.pure]

/-- A problem with the samples names the one that fails, and says so. -/
theorem problem_of_sampleFails {start middle : Int} {p : Problem}
    (h : SampleFails host start middle (.problem p)) :
    ∃ sample, (sample = start ∨ sample = middle) ∧ p = .unrepresentable sample ∧
      LocalTime.resolve host sample = .error (.problem p) := by
  rcases h with hfirst | ⟨-, hsecond⟩
  · exact ⟨start, .inl rfl, (LocalTime.resolve_eq_problem_iff.mp hfirst).2, hfirst⟩
  · exact ⟨middle, .inr rfl, (LocalTime.resolve_eq_problem_iff.mp hsecond).2, hsecond⟩

/-- **A zone is observed unless one of its samples cannot be resolved.** For every resolved instant
of a host that breaks instants down with moderate offsets, start and middle of the block fit a word,
the block holds the instant, and all instants in it are observed alike. The zone is that of the two
samples if both are resolved; otherwise the first failure is passed on, and a problem names the
sample, which is never the instant itself. -/
theorem observe_fails_as_samples_do {time : LocalTime} (hcalendar : host.BreaksDown)
    (hmoderate : host.Moderate) (h : LocalTime.resolve host instant = .ok time) :
    let start := blockStart instant
    let middle := start + 15778800
    (FitsInt64 start ∧ FitsInt64 middle) ∧ InBlock start instant ∧
      (∀ other, InBlock start other → blockStart other = start ∧
        ∀ stamp, observe host stamp other = observe host stamp instant) ∧
      ∀ stamp : LocalTime,
        (∀ first second, LocalTime.resolve host start = .ok first →
          LocalTime.resolve host middle = .ok second →
            observe host stamp instant = .ok (.ofSamples stamp [first, second])) ∧
        (∀ failure, observe host stamp instant = .error failure ↔
          SampleFails host start middle failure) ∧
        ∀ p, observe host stamp instant = .error (.problem p) →
          ∃ sample, (sample = start ∨ sample = middle) ∧ sample ≠ instant ∧
            p.message = "Cannot convert timestamp ".toList ++ Decimal.numeral sample ++
              " to local time".toList := by
  intro start middle
  obtain ⟨hstart, hmiddle⟩ := fitsInt64_samples hcalendar hmoderate h
  refine ⟨⟨hstart, hmiddle⟩, inBlock_iff.mpr rfl, ?_, ?_⟩
  · intro other hother
    have hsame := inBlock_iff.mp hother
    exact ⟨hsame, observe_congr hsame⟩
  · intro stamp
    refine ⟨?_, fun failure => observe_eq_error_iff hstart hmiddle, ?_⟩
    · intro first second hfirst hsecond
      exact observe_eq_ok_iff.mpr ⟨first, second, ⟨hstart, hmiddle, hfirst, hsecond⟩, rfl⟩
    intro p hp
    obtain ⟨sample, hsample, hnames, hfails⟩ :=
      problem_of_sampleFails ((observe_eq_error_iff hstart hmiddle).mp hp)
    refine ⟨sample, hsample, ?_, congrArg Problem.message hnames⟩
    -- the instant itself has been resolved
    rintro rfl
    rw [h] at hfails
    cases hfails

/-- The first second that the host can count is resolved and not observed, as its block starts
before it. The last second of 1969 is observed by two samples earlier in its block. -/
theorem observe_fails_as_samples_do_before_epoch :
    let host := Host.fixed 0 "UTC".toList
    (host.BreaksDown ∧ host.Moderate) ∧
      (∃ time, LocalTime.resolve host (-67768040609740800) = .ok time) ∧
      InBlock (-67768040615227200) (-67768040609740800) ∧
      (∀ stamp, observe host stamp (-67768040609740800) =
        .error (.problem (.unrepresentable (-67768040615227200)))) ∧
      (∃ time, LocalTime.resolve host (-1) = .ok time) ∧ InBlock (-31557600) (-1) ∧
      ∀ stamp, ∃ zone, observe host stamp (-1) = .ok zone := by
  intro host
  have hcalendar : host.BreaksDown := Host.fixed_breaksDown (by decide)
  have hmoderate : host.Moderate := Host.fixed_moderate (by decide)
  have hcounted : LocalTime.resolve host (-67768040609740800) =
      .ok ⟨-2147481748, 1, 1, 0, 0, 0, 3, 1, some "UTC".toList, .inactive, 0⟩ :=
    eq_ok_of_toOption (by decide +kernel)
  have hrefused : LocalTime.resolve host (-67768040615227200) =
      .error (.problem (.unrepresentable (-67768040615227200))) :=
    LocalTime.resolve_of_none (by decide +kernel)
  have hlast : LocalTime.resolve host (-1) =
      .ok ⟨1969, 12, 31, 23, 59, 59, 2, 365, some "UTC".toList, .inactive, 0⟩ :=
    eq_ok_of_toOption (by decide +kernel)
  have hfirst : LocalTime.resolve host (-31557600) =
      .ok ⟨1968, 12, 31, 18, 0, 0, 1, 366, some "UTC".toList, .inactive, 0⟩ :=
    eq_ok_of_toOption (by decide +kernel)
  have hsecond : LocalTime.resolve host (-15778800) =
      .ok ⟨1969, 7, 2, 9, 0, 0, 2, 183, some "UTC".toList, .inactive, 0⟩ :=
    eq_ok_of_toOption (by decide +kernel)
  obtain ⟨-, hblock, -, hfails⟩ := observe_fails_as_samples_do hcalendar hmoderate hcounted
  obtain ⟨-, hyear, -, hobserved⟩ := observe_fails_as_samples_do hcalendar hmoderate hlast
  refine ⟨⟨hcalendar, hmoderate⟩, ⟨_, hcounted⟩, hblock, ?_, ⟨_, hlast⟩, hyear, ?_⟩
  · intro stamp
    exact ((hfails stamp).2.1 _).mpr (.inl hrefused)
  · intro stamp
    exact ⟨_, (hobserved stamp).1 _ _ hfirst hsecond⟩

end Zone

end Datestamp
