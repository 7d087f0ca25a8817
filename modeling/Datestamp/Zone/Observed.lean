import Datestamp.LocalTime.Resolve
import Datestamp.Zone

/-!
# Observed zones

The host tells the offset in effect at an instant, but not how it splits into standard time and
increment. The split is inferred from samples: a stamp in daylight saving time takes its standard
time from the first sample outside, any other stamp its daylight saving time from the first sample
inside. The samples are the start of the instant's block of an average year and its middle. The
stamp's own offset and name are always among those of the zone.
-/

namespace Datestamp

/-- The zone name of a local time; no name counts as empty. -/
def LocalTime.nameOrEmpty (time : LocalTime) : Text := time.zoneName.getD []

namespace Zone

/-- The zone of a stamp, by the samples. -/
def ofSamples (stamp : LocalTime) (samples : List LocalTime) : Zone :=
  match stamp.daylight with
  | .active =>
    match samples.find? (·.daylight = .inactive) with
    | some standard =>
      ⟨standard.utcOffset, some stamp.utcOffset, standard.nameOrEmpty, stamp.nameOrEmpty⟩
    | none => ⟨stamp.utcOffset, some stamp.utcOffset, stamp.nameOrEmpty, stamp.nameOrEmpty⟩
  | .inactive | .unknown =>
    match samples.find? (·.daylight = .active) with
    | some daylight =>
      ⟨stamp.utcOffset, some daylight.utcOffset, stamp.nameOrEmpty, daylight.nameOrEmpty⟩
    | none => fixed stamp.utcOffset stamp.nameOrEmpty

/-- A status that some sample has is found in one. -/
theorem exists_find? {samples : List LocalTime} {status : Daylight}
    (h : ∃ s ∈ samples, s.daylight = status) :
    ∃ s ∈ samples, samples.find? (·.daylight = status) = some s ∧ s.daylight = status := by
  cases hf : samples.find? (·.daylight = status) with
  | none =>
      obtain ⟨s, hs, hstatus⟩ := h
      exact absurd (decide_eq_true hstatus) (List.find?_eq_none.mp hf s hs)
  | some s => exact ⟨s, List.mem_of_find?_eq_some hf, rfl, by simpa using List.find?_some hf⟩

/-! ## The samples of an instant -/

/-- The seconds of an average year of 365 days and six hours. -/
def blockSeconds : Int := 31557600

/-- The first instant of an instant's block. -/
def blockStart (instant : Int) : Int := instant / blockSeconds * blockSeconds

/-- The zone of a resolved instant, by the samples of its block. -/
def observe (host : Host) (stamp : LocalTime) (instant : Int) : Except Failure Zone := do
  let start ← (checked FitsInt64 .multiply (blockStart instant)).mapError .fault
  let first ← LocalTime.resolve host start
  let middle ← (checked FitsInt64 .add (start + blockSeconds / 2)).mapError .fault
  let second ← LocalTime.resolve host middle
  return ofSamples stamp [first, second]

end Zone

/-- An instant resolved, together with its zone. -/
def LocalTime.observe (host : Host) (instant : Int) : Except Failure (LocalTime × Zone) := do
  let stamp ← resolve host instant
  let zone ← Zone.observe host stamp instant
  return (stamp, zone)

/-! ## What observing an instant gives -/

variable {host : Host} {stamp : LocalTime} {instant : Int} {zone : Zone}

namespace Zone

/-- The instants at which the zone of an instant is sampled. -/
def sampleInstants (instant : Int) : List Int :=
  [blockStart instant, blockStart instant + blockSeconds / 2]

/-- The samples of an instant: both are instants of 64 bits, and resolved. -/
structure Sampled (host : Host) (instant : Int) (first second : LocalTime) : Prop where
  start_fits : FitsInt64 (blockStart instant)
  middle_fits : FitsInt64 (blockStart instant + blockSeconds / 2)
  first_resolved : LocalTime.resolve host (blockStart instant) = .ok first
  second_resolved : LocalTime.resolve host (blockStart instant + blockSeconds / 2) = .ok second

/-- An instant has a zone exactly if its samples can be resolved, and it is the zone by them. -/
theorem observe_eq_ok_iff :
    observe host stamp instant = .ok zone ↔ ∃ first second,
      Sampled host instant first second ∧ zone = .ofSamples stamp [first, second] := by
  constructor
  · intro h
    obtain ⟨start, hstart, h⟩ := of_bind_eq_ok h
    obtain ⟨first, hfirst, h⟩ := of_bind_eq_ok h
    obtain ⟨middle, hmiddle, h⟩ := of_bind_eq_ok h
    obtain ⟨second, hsecond, hzone⟩ := of_bind_eq_ok h
    obtain ⟨fstart, rfl⟩ := of_checked (of_mapError_eq_ok hstart)
    obtain ⟨fmiddle, rfl⟩ := of_checked (of_mapError_eq_ok hmiddle)
    exact ⟨first, second, ⟨fstart, fmiddle, hfirst, hsecond⟩, (Except.ok.inj hzone).symm⟩
  · rintro ⟨first, second, ⟨fstart, fmiddle, hfirst, hsecond⟩, rfl⟩
    refine bind_eq_ok (mapError_eq_ok (checked_eq_ok fstart)) ?_
    refine bind_eq_ok hfirst ?_
    refine bind_eq_ok (mapError_eq_ok (checked_eq_ok fmiddle)) ?_
    exact bind_eq_ok hsecond rfl

/-- Each sample is resolved at one of the sampled instants. -/
theorem Sampled.exists_resolve {first second s : LocalTime}
    (h : Sampled host instant first second) (hs : s ∈ [first, second]) :
    ∃ t ∈ sampleInstants instant, LocalTime.resolve host t = .ok s := by
  rcases List.mem_cons.mp hs with rfl | hs
  · exact ⟨_, List.mem_cons_self, h.first_resolved⟩
  · obtain rfl := List.mem_singleton.mp hs
    exact ⟨_, List.mem_cons_of_mem _ List.mem_cons_self, h.second_resolved⟩

/-- Each of the sampled instants has its sample. -/
theorem Sampled.exists_sample {first second : LocalTime} {t : Int}
    (h : Sampled host instant first second) (ht : t ∈ sampleInstants instant) :
    ∃ s ∈ [first, second], LocalTime.resolve host t = .ok s := by
  rcases List.mem_cons.mp ht with rfl | ht
  · exact ⟨_, List.mem_cons_self, h.first_resolved⟩
  · obtain rfl := List.mem_singleton.mp ht
    exact ⟨_, List.mem_cons_of_mem _ List.mem_cons_self, h.second_resolved⟩

end Zone

/-- An instant is observed exactly if it is resolved and its samples are. -/
theorem LocalTime.observe_eq_ok_iff :
    LocalTime.observe host instant = .ok (stamp, zone) ↔ resolve host instant = .ok stamp ∧
      ∃ first second, Zone.Sampled host instant first second ∧
        zone = .ofSamples stamp [first, second] := by
  rw [← Zone.observe_eq_ok_iff]
  constructor
  · intro h
    obtain ⟨time, htime, h⟩ := of_bind_eq_ok h
    obtain ⟨found, hzone, hpair⟩ := of_bind_eq_ok h
    obtain ⟨rfl, rfl⟩ := Prod.mk.inj (Except.ok.inj hpair)
    exact ⟨htime, hzone⟩
  · rintro ⟨htime, hzone⟩
    exact bind_eq_ok htime (bind_eq_ok hzone rfl)

theorem LocalTime.resolve_of_observe {seen : LocalTime × Zone}
    (h : LocalTime.observe host instant = .ok seen) : resolve host instant = .ok seen.1 :=
  (observe_eq_ok_iff.mp h).1

end Datestamp
