import Datestamp.Proofs.Format.Meaning
import Datestamp.Proofs.Host.Known

/-!
# The offset in effect

The split of an observed zone into standard time and increment is a guess from two samples, but the
offset in effect is not. Whatever the samples are, the zone of a stamp gives back the offset and the
name of the stamp itself (`Zone.effective_ofSamples`, `Zone.nameAt_ofSamples`). A stamp takes them
from the host, so the directives `%z`, `%0z` to `%3z` and `%Z` print what the host tells of the
instant.
-/

namespace Datestamp

/-! ## A zone keeps what its stamp says -/

/-- The samples fill in only the half of the zone that is not in effect. -/
theorem Zone.activeOffset?_ofSamples (stamp : LocalTime) (samples : List LocalTime) :
    let zone := Zone.ofSamples stamp samples
    (zone.activeOffset? stamp.daylight = some stamp.utcOffset ∧
        zone.daylightName = stamp.nameOrEmpty) ∨
      (zone.activeOffset? stamp.daylight = none ∧ zone.standardOffset = stamp.utcOffset ∧
        zone.standardName = stamp.nameOrEmpty) := by
  intro zone
  unfold zone Zone.ofSamples
  cases stamp.daylight with
  | active =>
      left
      cases samples.find? (·.daylight = .inactive) <;> exact ⟨rfl, rfl⟩
  | inactive =>
      right
      cases samples.find? (·.daylight = .active) <;> exact ⟨rfl, rfl, rfl⟩
  | unknown =>
      right
      cases samples.find? (·.daylight = .active) <;> exact ⟨rfl, rfl, rfl⟩

theorem Zone.effective_ofSamples (stamp : LocalTime) (samples : List LocalTime) :
    (Zone.ofSamples stamp samples).effective stamp.daylight = .ofSeconds stamp.utcOffset := by
  rcases Zone.activeOffset?_ofSamples stamp samples with ⟨ha, -⟩ | ⟨ha, hoffset, -⟩
  · rw [Zone.effective, ha]
  · rw [Zone.effective, ha]
    show ClockOffset.ofSeconds (Zone.ofSamples stamp samples).standardOffset = _
    rw [hoffset]

theorem Zone.nameAt_ofSamples (stamp : LocalTime) (samples : List LocalTime) :
    (Zone.ofSamples stamp samples).nameAt stamp.daylight = stamp.nameOrEmpty := by
  rcases Zone.activeOffset?_ofSamples stamp samples with ⟨ha, hname⟩ | ⟨ha, -, hname⟩
  · rw [Zone.nameAt, ha]
    exact hname
  · rw [Zone.nameAt, ha]
    exact hname

/-! ## Its fields can be built -/

/-- The two offsets of a zone fit a word of 32 bits. -/
structure Zone.Moderate (zone : Zone) : Prop where
  standard : FitsInt32 zone.standardOffset
  daylight : ∀ d, zone.daylightOffset = some d → FitsInt32 d

theorem Zone.Moderate.of_fits {standard daylight : Int} {standardName daylightName : Text}
    (hs : FitsInt32 standard) (hd : FitsInt32 daylight) :
    Zone.Moderate ⟨standard, some daylight, standardName, daylightName⟩ where
  standard := hs
  daylight := by
    intro d h
    obtain rfl := Option.some.inj h
    exact hd

theorem Zone.Moderate.fixed {offset : Int} {name : Text} (h : FitsInt32 offset) :
    (Zone.fixed offset name).Moderate where
  standard := h
  daylight := by
    intro d hd
    cases hd

theorem Zone.Moderate.ofSamples {stamp : LocalTime} {samples : List LocalTime}
    (hstamp : FitsInt32 stamp.utcOffset) (hsamples : ∀ s ∈ samples, FitsInt32 s.utcOffset) :
    (Zone.ofSamples stamp samples).Moderate := by
  unfold Zone.ofSamples
  cases stamp.daylight with
  | active =>
      cases hf : samples.find? (·.daylight = .inactive) with
      | none => exact .of_fits hstamp hstamp
      | some standard => exact .of_fits (hsamples _ (List.mem_of_find?_eq_some hf)) hstamp
  | inactive =>
      cases hf : samples.find? (·.daylight = .active) with
      | none => exact .fixed hstamp
      | some daylight => exact .of_fits hstamp (hsamples _ (List.mem_of_find?_eq_some hf))
  | unknown =>
      cases hf : samples.find? (·.daylight = .active) with
      | none => exact .fixed hstamp
      | some daylight => exact .of_fits hstamp (hsamples _ (List.mem_of_find?_eq_some hf))

theorem Zone.Moderate.increment {zone : Zone} (h : zone.Moderate) (status : Daylight) :
    ∃ o, zone.increment status = .ok o := by
  cases ha : zone.activeOffset? status with
  | none => exact ⟨_, Zone.increment_of_none ha⟩
  | some offset =>
      have hstandard := h.standard
      have hdaylight := h.daylight offset (Zone.activeOffset?_eq_some_iff.mp ha).2
      have hfits : FitsInt64 (offset - zone.standardOffset) := by
        unfold FitsInt32 at hstandard hdaylight
        unfold FitsInt64
        omega
      exact ⟨_, Zone.increment_of_fits ha hfits⟩

/-- The fields of a stamp in a zone by samples, once the increment is known. -/
theorem Fields.of_ofSamples {stamp : LocalTime} {samples : List LocalTime} {increment : ClockOffset}
    (h : (Zone.ofSamples stamp samples).increment stamp.daylight = .ok increment) :
    Fields.of stamp (.ofSamples stamp samples) = .ok ⟨stamp, stamp.nameOrEmpty,
      (Zone.ofSamples stamp samples).base, increment, .ofSeconds stamp.utcOffset⟩ := by
  have hname : stamp.zoneName.getD ((Zone.ofSamples stamp samples).nameAt stamp.daylight) =
      stamp.nameOrEmpty := by
    rw [Zone.nameAt_ofSamples, LocalTime.nameOrEmpty]
    cases stamp.zoneName <;> rfl
  rw [Fields.of, h, hname, Zone.effective_ofSamples]
  rfl

/-- Whatever the samples are, the fields that can be built are those of the stamp. -/
theorem Fields.eq_of_ofSamples {stamp : LocalTime} {samples : List LocalTime} {fs : Fields}
    (h : Fields.of stamp (.ofSamples stamp samples) = .ok fs) : fs.time = stamp ∧
      fs.zoneName = stamp.nameOrEmpty ∧ fs.effective = .ofSeconds stamp.utcOffset := by
  cases hinc : (Zone.ofSamples stamp samples).increment stamp.daylight with
  | error fault =>
      rw [Fields.of, hinc] at h
      cases h
  | ok increment =>
      obtain rfl := Except.ok.inj ((Fields.of_ofSamples hinc).symm.trans h)
      exact ⟨rfl, rfl, rfl⟩

/-! ## Observed zones -/

variable {host : Host} {instant : Int} {stamp : LocalTime} {zone : Zone}

theorem Zone.Moderate.of_observe (hhost : host.Moderate)
    (h : LocalTime.observe host instant = .ok (stamp, zone)) : zone.Moderate := by
  obtain ⟨hstamp, first, second, hsamples, rfl⟩ := LocalTime.observe_eq_ok_iff.mp h
  apply Zone.Moderate.ofSamples (hhost.fits hstamp)
  intro s hs
  obtain ⟨t, -, ht⟩ := hsamples.exists_resolve hs
  exact hhost.fits ht

/-- The line of an observed instant, in whatever format: the offset and the name in effect are those
of its own local time. -/
theorem stampLine_of_observe (hhost : host.Moderate)
    (h : LocalTime.observe host instant = .ok (stamp, zone)) :
    ∃ base increment, ∀ format, stampLine format stamp zone = .ok (Format.meaning
      ⟨stamp, stamp.nameOrEmpty, base, increment, .ofSeconds stamp.utcOffset⟩ format) := by
  obtain ⟨increment, hinc⟩ := (Zone.Moderate.of_observe hhost h).increment stamp.daylight
  obtain ⟨-, first, second, -, rfl⟩ := LocalTime.observe_eq_ok_iff.mp h
  exact ⟨_, increment, stampLine_of_fields (Fields.of_ofSamples hinc)⟩

/-- An observed instant has a line in every format, that of its own local time and offset. -/
theorem instantLine_of_observe (hhost : host.Moderate)
    (h : LocalTime.observe host instant = .ok (stamp, zone)) :
    ∃ base increment, ∀ format, instantLine host format instant = .ok (Format.meaning
      ⟨stamp, stamp.nameOrEmpty, base, increment, .ofSeconds stamp.utcOffset⟩ format) := by
  obtain ⟨base, increment, hline⟩ := stampLine_of_observe hhost h
  exact ⟨base, increment, fun format => bind_eq_ok h (mapError_eq_ok (hline format))⟩

/-- **An observed zone reproduces the host's answer.** The zone of a stamp has the stamp's own offset
and name in effect, whatever the samples are. So for every host, and every instant that can be
observed, the zone has in effect what the host tells of that instant, and this is printed whenever
the fields can be built; which they can if the offsets of the host are moderate. -/
theorem observed_offset_in_effect :
    (∀ (stamp : LocalTime) (samples : List LocalTime),
      (Zone.ofSamples stamp samples).effective stamp.daylight = .ofSeconds stamp.utcOffset ∧
        (Zone.ofSamples stamp samples).nameAt stamp.daylight = stamp.zoneName.getD []) ∧
      ∀ (host : Host) (instant : Int) (stamp : LocalTime) (zone : Zone),
        LocalTime.observe host instant = .ok (stamp, zone) →
          ∃ told, host.localTime instant = some told ∧
            let o := ClockOffset.ofSeconds told.offset.toInt
            let name := told.zoneName.getD []
            zone.effective stamp.daylight = o ∧ zone.nameAt stamp.daylight = name ∧
            (∀ fs, Fields.of stamp zone = .ok fs →
              (∀ part, stampLine (Directive.offset .effective (some part)).token stamp zone =
                .ok (o.partText part)) ∧
              stampLine "%z".toList stamp zone =
                .ok (o.partText .sign ++ o.partText .hour ++ o.partText .minute) ∧
              stampLine "%Z".toList stamp zone = .ok name) ∧
            (host.Moderate → ∃ fs, Fields.of stamp zone = .ok fs) := by
  constructor
  · intro stamp samples
    exact ⟨Zone.effective_ofSamples stamp samples, Zone.nameAt_ofSamples stamp samples⟩
  · intro host instant stamp zone h
    obtain ⟨hstamp, first, second, -, hsamples⟩ := LocalTime.observe_eq_ok_iff.mp h
    obtain ⟨told, htold, -, htime⟩ := LocalTime.resolve_eq_ok_iff.mp hstamp
    have hoffset : told.offset.toInt = stamp.utcOffset := congrArg LocalTime.utcOffset htime.symm
    have hname : told.zoneName = stamp.zoneName := congrArg LocalTime.zoneName htime.symm
    refine ⟨told, htold, ?_⟩
    intro o name
    have ho : .ofSeconds stamp.utcOffset = o := congrArg ClockOffset.ofSeconds hoffset.symm
    have hn : stamp.nameOrEmpty = name := congrArg (Option.getD · []) hname.symm
    refine ⟨?_, ?_, ?_, ?_⟩
    · rw [hsamples, Zone.effective_ofSamples, ho]
    · rw [hsamples, Zone.nameAt_ofSamples, hn]
    · intro fs hfs
      rw [hsamples] at hfs ⊢
      obtain ⟨-, hzoneName, heffective⟩ := Fields.eq_of_ofSamples hfs
      rw [hn] at hzoneName
      rw [ho] at heffective
      have htoken : ∀ d : Directive,
          stampLine d.token stamp (.ofSamples stamp [first, second]) = .ok (d.text fs) := by
        intro d
        rw [stampLine_of_fields hfs, Format.meaning_token]
      refine ⟨fun part => ?_, ?_, ?_⟩
      · rw [htoken, ← heffective]
        rfl
      · rw [← heffective]
        exact htoken (.offset .effective none)
      · rw [← hzoneName]
        exact htoken (.time .zoneName)
    · intro hhost
      obtain ⟨increment, hinc⟩ := (Zone.Moderate.of_observe hhost h).increment stamp.daylight
      rw [hsamples] at hinc ⊢
      exact ⟨_, Fields.of_ofSamples hinc⟩

/-- A summer south of the equator, where January is in daylight saving time. -/
theorem observed_offset_in_effect_in_january :
    ∃ stamp zone, LocalTime.observe .southern 1514980800 = .ok (stamp, zone) ∧
      stampLine "%z".toList stamp zone = .ok "+1100".toList ∧
      stampLine "%Z".toList stamp zone = .ok "AEDT".toList := by
  have h : LocalTime.observe .southern 1514980800 =
      .ok (⟨2018, 1, 3, 23, 0, 0, 2, 3, some "AEDT".toList, .active, 39600⟩,
        ⟨36000, some 39600, "AEST".toList, "AEDT".toList⟩) :=
    eq_ok_of_toOption (by decide +kernel)
  obtain ⟨told, htold, -, -, hlines, hfields⟩ := observed_offset_in_effect.2 _ _ _ _ h
  obtain ⟨fs, hfs⟩ := hfields Host.southern_moderate
  obtain ⟨-, hoffset, hname⟩ := hlines fs hfs
  have hanswer : Host.southern.localTime 1514980800 = some _ := rfl
  obtain rfl := Option.some.inj (hanswer.symm.trans htold)
  refine ⟨_, _, h, ?_, ?_⟩
  · rw [hoffset]
    exact congrArg Except.ok (by decide +kernel)
  · exact hname

end Datestamp
