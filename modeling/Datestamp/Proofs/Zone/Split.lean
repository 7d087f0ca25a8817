import Datestamp.Proofs.Field.Families
import Datestamp.Proofs.Zone.InEffect
import Datestamp.Proofs.Zone.Seasons

/-!
# How the offset in effect splits

An observed zone has both of its offsets right only as far as the host has shown them. The stamp
shows the one in effect, and the two samples of its block may show the other. So on a host with two
seasons the split into standard time and increment is that of the seasons if standard time is seen at
the instant or at one of its samples, and only then: otherwise daylight saving time counts as
year-round, with no increment (`observed_split`). A year may well have a season of standard time that
both samples miss (`short_season_unseen`).
-/

namespace Datestamp

namespace Zone

variable {stamp : LocalTime} {samples : List LocalTime}

/-! ## The standard offset, by the samples -/

theorem standardOffset_of_not_active (h : stamp.daylight ≠ .active) :
    (ofSamples stamp samples).standardOffset = stamp.utcOffset := by
  unfold ofSamples
  cases hd : stamp.daylight with
  | active => exact absurd hd h
  | inactive => cases samples.find? (·.daylight = .active) <;> rfl
  | unknown => cases samples.find? (·.daylight = .active) <;> rfl

theorem standardOffset_of_sample {offset : Int} (h : stamp.daylight = .active)
    (hseen : ∃ s ∈ samples, s.daylight = .inactive)
    (hoffset : ∀ s ∈ samples, s.daylight = .inactive → s.utcOffset = offset) :
    (ofSamples stamp samples).standardOffset = offset := by
  obtain ⟨s, hs, hfound, hinactive⟩ := exists_find? hseen
  simp only [ofSamples, h, hfound]
  exact hoffset s hs hinactive

theorem standardOffset_of_no_sample (h : stamp.daylight = .active)
    (hunseen : ∀ s ∈ samples, s.daylight ≠ .inactive) :
    (ofSamples stamp samples).standardOffset = stamp.utcOffset := by
  unfold ofSamples
  rw [h]
  cases hf : samples.find? (·.daylight = .inactive) with
  | none => rfl
  | some s =>
      have hinactive : s.daylight = .inactive := by simpa using List.find?_some hf
      exact absurd hinactive (hunseen s (List.mem_of_find?_eq_some hf))

/-! ## The increment is what is left -/

theorem secondsAt_ofSamples (stamp : LocalTime) (samples : List LocalTime) :
    (ofSamples stamp samples).secondsAt stamp.daylight = stamp.utcOffset := by
  rcases activeOffset?_ofSamples stamp samples with ⟨ha, -⟩ | ⟨ha, hoffset, -⟩
  · rw [secondsAt, ha]
    rfl
  · rw [secondsAt, ha]
    exact hoffset

theorem increment_ofSamples (h : (ofSamples stamp samples).Moderate) :
    (ofSamples stamp samples).increment stamp.daylight =
      .ok (.ofSeconds (stamp.utcOffset - (ofSamples stamp samples).standardOffset)) := by
  obtain ⟨o, ho⟩ := h.increment stamp.daylight
  rcases increment_eq (ofSamples stamp samples) stamp.daylight with ⟨-, hinc⟩ | ⟨-, hinc⟩
  · rw [ho] at hinc
    cases hinc
  · rw [hinc, secondsAt_ofSamples]

/-- What is known and shown of a zone's split at a stamp. -/
structure ShowsSplit (zone : Zone) (stamp : LocalTime) (base increment : ClockOffset) : Prop where
  base_eq : zone.base = base
  increment_eq : zone.increment stamp.daylight = .ok increment
  base_line : stampLine "%!z".toList stamp zone =
    .ok (base.partText .sign ++ base.partText .hour ++ base.partText .minute)
  increment_line : stampLine "%*z".toList stamp zone =
    .ok (increment.partText .sign ++ increment.partText .hour ++ increment.partText .minute)

theorem ShowsSplit.of_increment {zone : Zone} {base increment : ClockOffset}
    (hbase : zone.base = base) (hincrement : zone.increment stamp.daylight = .ok increment) :
    zone.ShowsSplit stamp base increment := by
  have hline : ∀ d : Directive, stampLine d.token stamp zone =
      .ok (d.text ⟨stamp, stamp.zoneName.getD (zone.nameAt stamp.daylight), base, increment,
        zone.effective stamp.daylight⟩) := by
    intro d
    rw [stampLine_eq_map, Fields.of, hincrement, hbase]
    exact congrArg Except.ok (Format.meaning_token _ d)
  exact ⟨hbase, hincrement, hline (.offset .base none), hline (.offset .increment none)⟩

end Zone

/-! ## Where standard time is seen -/

namespace Host

/-- The host tells standard time at an instant. -/
def InStandard (host : Host) (t : Int) : Prop :=
  ∃ told ∈ host.localTime t, told.daylight.toInt = 0

/-- The host tells daylight saving time at an instant. -/
def InDaylight (host : Host) (t : Int) : Prop :=
  ∃ told ∈ host.localTime t, 0 < told.daylight.toInt

/-- Standard time is in effect at the instant or at one of its samples. -/
def StandardSeen (host : Host) (instant : Int) : Prop :=
  ∃ t ∈ instant :: Zone.sampleInstants instant, host.InStandard t

instance (host : Host) (t : Int) : Decidable (host.InStandard t) :=
  inferInstanceAs (Decidable (∃ told ∈ host.localTime t, _))

instance (host : Host) (t : Int) : Decidable (host.InDaylight t) :=
  inferInstanceAs (Decidable (∃ told ∈ host.localTime t, _))

instance (host : Host) (instant : Int) : Decidable (host.StandardSeen instant) :=
  inferInstanceAs (Decidable (∃ t ∈ _ :: _, _))

end Host

variable {host : Host} {seasons : Seasons} {instant : Int} {stamp : LocalTime} {zone : Zone}

theorem Host.InStandard.not_inDaylight {t : Int} (h : host.InStandard t) : ¬ host.InDaylight t := by
  rintro ⟨told', htold', hpos⟩
  obtain ⟨told, htold, hzero⟩ := h
  obtain rfl := Option.mem_unique htold htold'
  omega

/-- A resolved time is in standard time or in daylight saving time, as the host tells. -/
theorem LocalTime.season_cases (hhost : host.HasSeasons seasons) {t : Int} {time : LocalTime}
    (h : resolve host t = .ok time) :
    (host.InStandard t ∧ time.daylight = .inactive ∧ time.utcOffset = seasons.standard) ∨
      host.InDaylight t ∧ time.daylight = .active ∧ time.utcOffset = seasons.daylight := by
  obtain ⟨told, htold, -, rfl⟩ := resolve_eq_ok_iff.mp h
  rcases hhost htold with ⟨hflag, hoffset, -⟩ | ⟨hflag, hoffset, -⟩
  · exact .inl ⟨⟨told, htold, hflag⟩, congrArg Daylight.ofFlag hflag, hoffset⟩
  · exact .inr ⟨⟨told, htold, hflag⟩, Daylight.ofFlag_of_pos hflag, hoffset⟩

theorem LocalTime.daylight_eq_inactive_iff (hhost : host.HasSeasons seasons) {t : Int}
    {time : LocalTime} (h : resolve host t = .ok time) :
    time.daylight = .inactive ↔ host.InStandard t := by
  rcases season_cases hhost h with ⟨hstandard, hstatus, -⟩ | ⟨hdaylight, hstatus, -⟩
  · exact iff_of_true hstatus hstandard
  · refine iff_of_false ?_ fun hstandard => hstandard.not_inDaylight hdaylight
    rw [hstatus]
    decide

/-- The samples of an instant in daylight saving time show standard time if it is seen. -/
theorem Zone.exists_inactive_iff (hhost : host.HasSeasons seasons) {first second : LocalTime}
    (hsamples : Sampled host instant first second) (hnot : ¬ host.InStandard instant) :
    (∃ s ∈ [first, second], s.daylight = .inactive) ↔ host.StandardSeen instant := by
  constructor
  · rintro ⟨s, hs, hinactive⟩
    obtain ⟨t, ht, hresolved⟩ := hsamples.exists_resolve hs
    exact ⟨t, List.mem_cons_of_mem _ ht,
      (LocalTime.daylight_eq_inactive_iff hhost hresolved).mp hinactive⟩
  · rintro ⟨t, ht, hstandard⟩
    rcases List.mem_cons.mp ht with rfl | ht
    · exact absurd hstandard hnot
    · obtain ⟨s, hs, hresolved⟩ := hsamples.exists_sample ht
      exact ⟨s, hs, (LocalTime.daylight_eq_inactive_iff hhost hresolved).mpr hstandard⟩

theorem Zone.standardOffset_of_seen (hhost : host.HasSeasons seasons)
    (h : LocalTime.observe host instant = .ok (stamp, zone)) (hseen : host.StandardSeen instant) :
    zone.standardOffset = seasons.standard := by
  obtain ⟨hstamp, first, second, hsamples, rfl⟩ := LocalTime.observe_eq_ok_iff.mp h
  rcases LocalTime.season_cases hhost hstamp with ⟨-, hstatus, hoffset⟩ | ⟨hin, hstatus, -⟩
  · rw [standardOffset_of_not_active (by rw [hstatus]; decide), hoffset]
  · -- not at the instant, so at one of the samples
    have hnot : ¬ host.InStandard instant := fun hstandard => hstandard.not_inDaylight hin
    apply standardOffset_of_sample hstatus ((exists_inactive_iff hhost hsamples hnot).mpr hseen)
    intro s hs hinactive
    obtain ⟨t, -, hresolved⟩ := hsamples.exists_resolve hs
    exact ((hhost.has hresolved).of_inactive hinactive).1

theorem Zone.standardOffset_of_unseen (hhost : host.HasSeasons seasons)
    (h : LocalTime.observe host instant = .ok (stamp, zone))
    (hunseen : ¬ host.StandardSeen instant) :
    zone.standardOffset = stamp.utcOffset ∧ stamp.utcOffset = seasons.daylight := by
  obtain ⟨hstamp, first, second, hsamples, rfl⟩ := LocalTime.observe_eq_ok_iff.mp h
  have hnot : ¬ host.InStandard instant := fun hin => hunseen ⟨_, List.mem_cons_self, hin⟩
  rcases LocalTime.season_cases hhost hstamp with ⟨hin, -⟩ | ⟨-, hstatus, hoffset⟩
  · exact absurd hin hnot
  · refine ⟨standardOffset_of_no_sample hstatus fun s hs hinactive => hunseen ?_, hoffset⟩
    exact (exists_inactive_iff hhost hsamples hnot).mp ⟨s, hs, hinactive⟩

/-- The split of an observed zone, by the standard offset that was found. -/
theorem Zone.showsSplit_of_observe (hmoderate : host.Moderate)
    (h : LocalTime.observe host instant = .ok (stamp, zone)) :
    zone.ShowsSplit stamp (.ofSeconds zone.standardOffset)
      (.ofSeconds (stamp.utcOffset - zone.standardOffset)) := by
  have hzone := Zone.Moderate.of_observe hmoderate h
  obtain ⟨-, first, second, -, rfl⟩ := LocalTime.observe_eq_ok_iff.mp h
  exact .of_increment rfl (Zone.increment_ofSamples hzone)

/-- **The split of an observed zone.** On a host with two seasons it is that of the seasons if
standard time is seen, at the instant or at one of its samples: the base is the offset of standard
time, and the increment is the difference of the offsets while daylight saving time is in effect and
zero otherwise. If standard time is not seen, the base is the offset of daylight saving time. -/
theorem observed_split (hseasons : host.HasSeasons seasons) (hmoderate : host.Moderate)
    (h : LocalTime.observe host instant = .ok (stamp, zone)) :
    (host.StandardSeen instant → zone.ShowsSplit stamp (.ofSeconds seasons.standard)
      (if host.InDaylight instant then .ofSeconds (seasons.daylight - seasons.standard)
        else .zero)) ∧
    (¬ host.StandardSeen instant → zone.ShowsSplit stamp (.ofSeconds seasons.daylight) .zero) := by
  have hsplit := Zone.showsSplit_of_observe hmoderate h
  have hstamp := LocalTime.resolve_of_observe h
  constructor
  · intro hseen
    rw [Zone.standardOffset_of_seen hseasons h hseen] at hsplit
    rcases LocalTime.season_cases hseasons hstamp with ⟨hin, -, hoffset⟩ | ⟨hin, -, hoffset⟩
    · rw [hoffset, Int.sub_self] at hsplit
      rw [if_neg hin.not_inDaylight]
      exact hsplit
    · rw [hoffset] at hsplit
      rw [if_pos hin]
      exact hsplit
  · intro hunseen
    obtain ⟨hstandard, hoffset⟩ := Zone.standardOffset_of_unseen hseasons h hunseen
    rw [hstandard, Int.sub_self, hoffset] at hsplit
    exact hsplit

/-! ## Two hosts in the year 2018 -/

/-- A host whose daylight saving time is in winter and takes an hour off. -/
def Host.winterSaving : Host := telling [
  (1514764800, ⟨118, 0, 1, 0, 0, 0, 1, 0, 1, 0, some "GMT".toList⟩),
  (1514980800, ⟨118, 0, 3, 12, 0, 0, 3, 2, 1, 0, some "GMT".toList⟩),
  (1530543600, ⟨118, 6, 2, 16, 0, 0, 1, 182, 0, 3600, some "IST".toList⟩)]

/-- A host with daylight saving time all year round but for the month of March. -/
def Host.standardInMarch : Host := telling [
  (1514764800, ⟨118, 0, 1, 1, 0, 0, 1, 0, 1, 3600, some "BBB".toList⟩),
  (1514980800, ⟨118, 0, 3, 13, 0, 0, 3, 2, 1, 3600, some "BBB".toList⟩),
  (1521072000, ⟨118, 2, 15, 0, 0, 0, 4, 73, 0, 0, some "AAA".toList⟩),
  (1530543600, ⟨118, 6, 2, 16, 0, 0, 1, 182, 1, 3600, some "BBB".toList⟩)]

theorem LocalTime.observe_standardInMarch : LocalTime.observe .standardInMarch 1514980800 =
    .ok (⟨2018, 1, 3, 13, 0, 0, 2, 3, some "BBB".toList, .active, 3600⟩,
      ⟨3600, some 3600, "BBB".toList, "BBB".toList⟩) :=
  eq_ok_of_toOption (by decide +kernel)

/-- Standard time is seen in July on the one host, and not at all on the other. -/
theorem observed_split_in_january :
    (Host.winterSaving.HasSeasons ⟨3600, "IST".toList, 0, "GMT".toList⟩ ∧
      ∃ stamp zone, LocalTime.observe .winterSaving 1514980800 = .ok (stamp, zone) ∧
      Host.winterSaving.StandardSeen 1514980800 ∧
      zone.base = .ofSeconds 3600 ∧ zone.increment stamp.daylight = .ok (.ofSeconds (-3600)) ∧
      stampLine "%!z".toList stamp zone = .ok "+0100".toList ∧
      stampLine "%*z".toList stamp zone = .ok "-0100".toList) ∧
    Host.standardInMarch.HasSeasons ⟨0, "AAA".toList, 3600, "BBB".toList⟩ ∧
      ∃ stamp zone, LocalTime.observe .standardInMarch 1514980800 = .ok (stamp, zone) ∧
      ¬ Host.standardInMarch.StandardSeen 1514980800 ∧
      zone.base = .ofSeconds 3600 ∧ zone.increment stamp.daylight = .ok .zero := by
  constructor
  · have hseasons : Host.winterSaving.HasSeasons ⟨3600, "IST".toList, 0, "GMT".toList⟩ :=
      Host.telling_hasSeasons (by decide +kernel)
    have hmoderate : Host.winterSaving.Moderate := Host.telling_moderate (by decide +kernel)
    have h : LocalTime.observe .winterSaving 1514980800 =
        .ok (⟨2018, 1, 3, 12, 0, 0, 2, 3, some "GMT".toList, .active, 0⟩,
          ⟨3600, some 0, "IST".toList, "GMT".toList⟩) := eq_ok_of_toOption (by decide +kernel)
    have hseen : Host.winterSaving.StandardSeen 1514980800 := by decide +kernel
    have hin : Host.winterSaving.InDaylight 1514980800 := by decide +kernel
    have hsplit := (observed_split hseasons hmoderate h).1 hseen
    rw [if_pos hin] at hsplit
    refine ⟨hseasons, _, _, h, hseen, hsplit.base_eq, hsplit.increment_eq, ?_, ?_⟩
    · rw [hsplit.base_line]
      exact congrArg Except.ok (by decide +kernel)
    · rw [hsplit.increment_line]
      exact congrArg Except.ok (by decide +kernel)
  · have hseasons : Host.standardInMarch.HasSeasons ⟨0, "AAA".toList, 3600, "BBB".toList⟩ :=
      Host.telling_hasSeasons (by decide +kernel)
    have hmoderate : Host.standardInMarch.Moderate := Host.telling_moderate (by decide +kernel)
    have h := LocalTime.observe_standardInMarch
    have hunseen : ¬ Host.standardInMarch.StandardSeen 1514980800 := by decide +kernel
    have hsplit := (observed_split hseasons hmoderate h).2 hunseen
    exact ⟨hseasons, _, _, h, hunseen, hsplit.base_eq, hsplit.increment_eq⟩

/-- The offset may split otherwise than the seasons have it, although the year has a season of
standard time: in January the samples do not show the March of the same year. -/
theorem short_season_unseen :
    ∃ (seasons : Seasons) (stamp : LocalTime) (zone : Zone),
      Host.standardInMarch.BreaksDown ∧ Host.standardInMarch.HasSeasons seasons ∧
      LocalTime.observe .standardInMarch 1514980800 = .ok (stamp, zone) ∧
      (∃ march, Calendar.yearOf (march / Calendar.daySeconds) =
          Calendar.yearOf (1514980800 / Calendar.daySeconds) ∧
        Host.standardInMarch.InStandard march) ∧
      Host.standardInMarch.InDaylight 1514980800 ∧
      zone.base ≠ .ofSeconds seasons.standard ∧
      zone.increment stamp.daylight ≠
        .ok (.ofSeconds (seasons.daylight - seasons.standard)) := by
  refine ⟨⟨0, "AAA".toList, 3600, "BBB".toList⟩, _, _, Host.telling_breaksDown (by decide +kernel),
    Host.telling_hasSeasons (by decide +kernel), LocalTime.observe_standardInMarch,
    ⟨1521072000, by decide +kernel, by decide +kernel⟩, by decide +kernel, by decide +kernel, ?_⟩
  intro hincrement
  exact absurd (Except.ok.inj hincrement) (by decide +kernel)

end Datestamp
