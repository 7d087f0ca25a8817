import Datestamp.Proofs.Host.Known
import Datestamp.Zone.Observed

/-!
# One zone, whatever the season

A zone with daylight saving time shows one of its two seasons at a time. An observed zone is put
together from both, one shown by the stamp and the other by a sample, and nothing in it tells which
was which: as long as both seasons are among the samples, every stamp and every order of the samples
gives the same zone (`observed_zone_of_both_seasons`). Summer may be in January, and daylight saving
time may take an hour off. In particular, on a host with two seasons an observed zone is the same
throughout its block, and has both of them, if the samples of the block fall into different seasons.
-/

namespace Datestamp

/-- Offset and name of standard time and of daylight saving time. -/
structure Seasons where
  standard : Int
  standardName : Text
  daylight : Int
  daylightName : Text
deriving DecidableEq, Repr

namespace Seasons

variable (seasons : Seasons)

/-- The zone with these two seasons. -/
def zone : Zone :=
  ⟨seasons.standard, some seasons.daylight, seasons.standardName, seasons.daylightName⟩

/-- A local time in one of the two seasons, with its offset and its name. -/
def Has (time : LocalTime) : Prop :=
  time.daylight = .inactive ∧ time.utcOffset = seasons.standard ∧
      time.nameOrEmpty = seasons.standardName ∨
    time.daylight = .active ∧ time.utcOffset = seasons.daylight ∧
      time.nameOrEmpty = seasons.daylightName

instance (time : LocalTime) : Decidable (seasons.Has time) := inferInstanceAs (Decidable (_ ∨ _))

variable {seasons} {time : LocalTime}

theorem Has.of_inactive (h : seasons.Has time) (hstatus : time.daylight = .inactive) :
    time.utcOffset = seasons.standard ∧ time.nameOrEmpty = seasons.standardName := by
  rcases h with ⟨-, hshown⟩ | ⟨hactive, -⟩
  · exact hshown
  · rw [hstatus] at hactive
    cases hactive

theorem Has.of_active (h : seasons.Has time) (hstatus : time.daylight = .active) :
    time.utcOffset = seasons.daylight ∧ time.nameOrEmpty = seasons.daylightName := by
  rcases h with ⟨hinactive, -⟩ | ⟨-, hshown⟩
  · rw [hstatus] at hinactive
    cases hinactive
  · exact hshown

/-- Of two different statuses in these seasons one is active and one is inactive. -/
theorem Has.both {a b : LocalTime} (ha : seasons.Has a) (hb : seasons.Has b)
    (h : a.daylight ≠ b.daylight) :
    (∃ x ∈ [a, b], x.daylight = .inactive) ∧ ∃ x ∈ [a, b], x.daylight = .active := by
  have hmem_a : a ∈ [a, b] := List.mem_cons_self
  have hmem_b : b ∈ [a, b] := List.mem_cons_of_mem _ List.mem_cons_self
  rcases ha with ⟨ha, -⟩ | ⟨ha, -⟩
  · rcases hb with ⟨hb, -⟩ | ⟨hb, -⟩
    · exact absurd (ha.trans hb.symm) h
    · exact ⟨⟨a, hmem_a, ha⟩, b, hmem_b, hb⟩
  · rcases hb with ⟨hb, -⟩ | ⟨hb, -⟩
    · exact ⟨⟨b, hmem_b, hb⟩, a, hmem_a, ha⟩
    · exact absurd (ha.trans hb.symm) h

/-! ## A zone from samples of both seasons -/

theorem ofSamples_of_has {stamp : LocalTime} {samples : List LocalTime} (hstamp : seasons.Has stamp)
    (hsamples : ∀ x ∈ samples, seasons.Has x) (hinactive : ∃ x ∈ samples, x.daylight = .inactive)
    (hactive : ∃ x ∈ samples, x.daylight = .active) :
    Zone.ofSamples stamp samples = seasons.zone := by
  -- the stamp shows its own season, and the first sample of the other one shows the rest
  rcases hstamp with ⟨hstatus, hoffset, hname⟩ | ⟨hstatus, hoffset, hname⟩
  · obtain ⟨x, hx, hfound, hx_active⟩ := Zone.exists_find? hactive
    obtain ⟨hx_offset, hx_name⟩ := (hsamples x hx).of_active hx_active
    simp only [Zone.ofSamples, hstatus, hfound]
    rw [hoffset, hname, hx_offset, hx_name]
    rfl
  · obtain ⟨x, hx, hfound, hx_inactive⟩ := Zone.exists_find? hinactive
    obtain ⟨hx_offset, hx_name⟩ := (hsamples x hx).of_inactive hx_inactive
    simp only [Zone.ofSamples, hstatus, hfound]
    rw [hoffset, hname, hx_offset, hx_name]
    rfl

end Seasons

/-! ## The seasons of a host -/

/-- Each local time is told in one of the two seasons, with its offset and its name. -/
def Host.HasSeasons (host : Host) (seasons : Seasons) : Prop :=
  ∀ ⦃t told⦄, host.localTime t = some told →
    told.daylight.toInt = 0 ∧ told.offset.toInt = seasons.standard ∧
        told.zoneName.getD [] = seasons.standardName ∨
      0 < told.daylight.toInt ∧ told.offset.toInt = seasons.daylight ∧
        told.zoneName.getD [] = seasons.daylightName

theorem Host.telling_hasSeasons {answers : List (Int × HostTime)} {seasons : Seasons}
    (h : ∀ answer ∈ answers,
      answer.2.daylight.toInt = 0 ∧ answer.2.offset.toInt = seasons.standard ∧
          answer.2.zoneName.getD [] = seasons.standardName ∨
        0 < answer.2.daylight.toInt ∧ answer.2.offset.toInt = seasons.daylight ∧
          answer.2.zoneName.getD [] = seasons.daylightName) :
    (telling answers).HasSeasons seasons := fun _ _ htold => h _ (mem_of_telling htold)

theorem Daylight.ofFlag_of_pos {flag : Int} (h : 0 < flag) : Daylight.ofFlag flag = .active := by
  rw [ofFlag, if_neg (by omega), if_neg (by omega)]

variable {host : Host} {seasons : Seasons} {instant : Int}

theorem Host.HasSeasons.has (hhost : host.HasSeasons seasons) {time : LocalTime}
    (h : LocalTime.resolve host instant = .ok time) : seasons.Has time := by
  obtain ⟨told, htold, -, rfl⟩ := LocalTime.resolve_eq_ok_iff.mp h
  rcases hhost htold with ⟨hflag, hshown⟩ | ⟨hflag, hshown⟩
  · exact .inl ⟨congrArg Daylight.ofFlag hflag, hshown⟩
  · exact .inr ⟨Daylight.ofFlag_of_pos hflag, hshown⟩

/-- Samples in different seasons give the zone that has both. -/
theorem Zone.ofSamples_of_both_seasons {stamp first second : LocalTime}
    (hhost : host.HasSeasons seasons) (hstamp : seasons.Has stamp)
    (hsamples : Sampled host instant first second) (hdiffer : first.daylight ≠ second.daylight) :
    ofSamples stamp [first, second] = seasons.zone := by
  have hhas : ∀ x ∈ [first, second], seasons.Has x := by
    intro x hx
    obtain ⟨t, -, ht⟩ := hsamples.exists_resolve hx
    exact hhost.has ht
  obtain ⟨hinactive, hactive⟩ := (hhost.has hsamples.first_resolved).both
    (hhost.has hsamples.second_resolved) hdiffer
  exact Seasons.ofSamples_of_has hstamp hhas hinactive hactive

/-- The samples are those of the block. -/
theorem Zone.Sampled.of_block {t u : Int} {first second : LocalTime}
    (h : Sampled host t first second) (hblock : blockStart u = blockStart t) :
    Sampled host u first second := by
  obtain ⟨hstart, hmiddle, hfirst, hsecond⟩ := h
  rw [← hblock] at hstart hmiddle hfirst hsecond
  exact ⟨hstart, hmiddle, hfirst, hsecond⟩

/-- **An observed zone does not depend on season, hemisphere or order.** From samples of both
seasons in whatever order, every stamp of these seasons gets the zone that has them. So on a host
with two seasons, all instants of a block whose samples differ in season get one zone. -/
theorem observed_zone_of_both_seasons :
    (∀ (seasons : Seasons) (stamp : LocalTime) (samples : List LocalTime), seasons.Has stamp →
      (∀ x ∈ samples, seasons.Has x) → (∃ x ∈ samples, x.daylight = .inactive) →
      (∃ x ∈ samples, x.daylight = .active) → Zone.ofSamples stamp samples =
        ⟨seasons.standard, some seasons.daylight, seasons.standardName, seasons.daylightName⟩) ∧
    ∀ (host : Host) (seasons : Seasons) (t : Int) (first second : LocalTime),
      host.HasSeasons seasons → Zone.Sampled host t first second →
      first.daylight ≠ second.daylight →
      ∀ (u : Int) (stamp : LocalTime), u / 31557600 = t / 31557600 →
        LocalTime.resolve host u = .ok stamp →
        LocalTime.observe host u = .ok (stamp,
          ⟨seasons.standard, some seasons.daylight, seasons.standardName,
            seasons.daylightName⟩) := by
  constructor
  · intro seasons stamp samples hstamp hsamples hinactive hactive
    exact Seasons.ofSamples_of_has hstamp hsamples hinactive hactive
  · intro host seasons t first second hhost hsamples hdiffer u stamp hblock hstamp
    have hstart : Zone.blockStart u = Zone.blockStart t :=
      congrArg (· * Zone.blockSeconds) hblock
    have hzone := Zone.ofSamples_of_both_seasons hhost (hhost.has hstamp) hsamples hdiffer
    exact LocalTime.observe_eq_ok_iff.mpr
      ⟨hstamp, first, second, hsamples.of_block hstart, hzone.symm⟩

theorem Host.southern_hasSeasons :
    Host.southern.HasSeasons ⟨36000, "AEST".toList, 39600, "AEDT".toList⟩ :=
  telling_hasSeasons (by decide +kernel)

/-- January and July of 2018 south of the equator: the samples, in whatever order and however often,
and the block show the same zone to both. -/
theorem observed_zone_of_both_seasons_in_the_south :
    ∃ summer winter zone, summer.daylight = .active ∧ winter.daylight = .inactive ∧
      Zone.ofSamples summer [summer, winter, winter] = zone ∧
      Zone.ofSamples winter [winter, summer] = zone ∧
      LocalTime.observe .southern 1514980800 = .ok (summer, zone) ∧
      LocalTime.observe .southern 1530619200 = .ok (winter, zone) := by
  have hsamples : Zone.Sampled .southern 1514980800
      ⟨2018, 1, 1, 11, 0, 0, 0, 1, some "AEDT".toList, .active, 39600⟩
      ⟨2018, 7, 3, 1, 0, 0, 1, 184, some "AEST".toList, .inactive, 36000⟩ :=
    ⟨by decide, by decide, eq_ok_of_toOption (by decide +kernel),
      eq_ok_of_toOption (by decide +kernel)⟩
  have hsummer : LocalTime.resolve .southern 1514980800 =
      .ok ⟨2018, 1, 3, 23, 0, 0, 2, 3, some "AEDT".toList, .active, 39600⟩ :=
    eq_ok_of_toOption (by decide +kernel)
  have hwinter : LocalTime.resolve .southern 1530619200 =
      .ok ⟨2018, 7, 3, 22, 0, 0, 1, 184, some "AEST".toList, .inactive, 36000⟩ :=
    eq_ok_of_toOption (by decide +kernel)
  obtain ⟨hzones, hblock⟩ := observed_zone_of_both_seasons
  have hseasons := Host.southern_hasSeasons
  refine ⟨_, _, ⟨36000, some 39600, "AEST".toList, "AEDT".toList⟩, rfl, rfl, ?_, ?_,
    hblock _ _ 1514980800 _ _ hseasons hsamples (by decide) 1514980800 _ rfl hsummer,
    hblock _ _ 1514980800 _ _ hseasons hsamples (by decide) 1530619200 _ (by decide) hwinter⟩
  · exact hzones ⟨36000, "AEST".toList, 39600, "AEDT".toList⟩ _ _ (by decide) (by decide)
      (by decide) (by decide)
  · exact hzones ⟨36000, "AEST".toList, 39600, "AEDT".toList⟩ _ _ (by decide) (by decide)
      (by decide) (by decide)

end Datestamp
