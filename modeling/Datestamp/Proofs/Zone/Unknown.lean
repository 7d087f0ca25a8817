import Datestamp.Proofs.Format.Meaning
import Datestamp.Zone.Observed

/-!
# An unknown status

A host may not know whether daylight saving time is in effect. Such a status counts as inactive in
every offset and name that a zone shows, in the choice between the two kinds of stamp, and where a
stamp looks for a sample in daylight saving time. There is one exception. A stamp in daylight saving
time takes its standard time from the first sample that is known to be outside, and passes over those
whose status is unknown. So settling all unknown statuses as inactive leaves zone and line alone
exactly if the first sample outside daylight saving time shows the standard time that was taken
(`settled_iff`).
-/

namespace Datestamp

/-- The status with an unknown one taken for inactive. -/
def Daylight.settled : Daylight → Daylight
  | .unknown => .inactive
  | .inactive => .inactive
  | .active => .active

/-- The local time with its status settled. -/
def LocalTime.settled (time : LocalTime) : LocalTime :=
  { time with daylight := time.daylight.settled }

theorem Daylight.settled_eq_active_iff {status : Daylight} :
    status.settled = .active ↔ status = .active := by
  cases status <;> decide

theorem Daylight.settled_eq_inactive_iff {status : Daylight} :
    status.settled = .inactive ↔ status ≠ .active := by
  cases status <;> decide

/-! ## What a zone shows -/

namespace Zone

variable (zone : Zone) (status : Daylight)

theorem activeOffset?_settled : zone.activeOffset? status.settled = zone.activeOffset? status := by
  cases status <;> rfl

theorem increment_settled : zone.increment status.settled = zone.increment status := by
  rw [increment, increment, activeOffset?_settled]

theorem effective_settled : zone.effective status.settled = zone.effective status := by
  rw [effective, effective, activeOffset?_settled]

theorem nameAt_settled : zone.nameAt status.settled = zone.nameAt status := by
  rw [nameAt, nameAt, activeOffset?_settled]

end Zone

/-- Fields of the same stamp, its status settled. -/
def Fields.settled (fs : Fields) : Fields := { fs with time := fs.time.settled }

theorem Fields.of_settled (time : LocalTime) (zone : Zone) :
    Fields.of time.settled zone = (Fields.of time zone).map Fields.settled := by
  have hincrement := zone.increment_settled time.daylight
  have hname := zone.nameAt_settled time.daylight
  have heffective := zone.effective_settled time.daylight
  unfold Fields.of
  show (zone.increment time.daylight.settled).map _ = _
  rw [hincrement]
  cases zone.increment time.daylight with
  | error fault => rfl
  | ok increment =>
      show Except.ok (Fields.mk time.settled
        (time.zoneName.getD (zone.nameAt time.daylight.settled)) zone.base increment
        (zone.effective time.daylight.settled)) = _
      rw [hname, heffective]
      rfl

/-- No directive shows the status itself. -/
theorem Format.meaning_settled (fs : Fields) (format : Text) :
    Format.meaning fs.settled format = Format.meaning fs format := by
  have htoken : ∀ token, Token.meaning fs.settled token = Token.meaning fs token := by
    intro token
    rcases token with run | d
    · rfl
    · rcases d with _ | f | ⟨kind, part⟩
      · rfl
      · cases f <;> rfl
      · cases kind <;> cases part <;> rfl
  unfold Format.meaning
  rw [funext htoken]

theorem stampLine_settled (format : Text) (time : LocalTime) (zone : Zone) :
    stampLine format time.settled zone = stampLine format time zone := by
  rw [stampLine_eq_map, stampLine_eq_map, Fields.of_settled]
  cases Fields.of time zone with
  | error fault => rfl
  | ok fs => exact congrArg Except.ok (Format.meaning_settled fs format)

/-! ## What a zone takes from its samples -/

namespace Zone

variable (stamp : LocalTime) (samples : List LocalTime)

theorem ofSamples_settled_stamp : ofSamples stamp.settled samples = ofSamples stamp samples := by
  unfold ofSamples LocalTime.settled
  cases stamp.daylight <;> rfl

theorem find?_active_settled :
    (samples.map LocalTime.settled).find? (·.daylight = .active) =
      (samples.find? (·.daylight = .active)).map LocalTime.settled := by
  rw [List.find?_map]
  congr 2
  funext s
  exact decide_eq_decide.mpr Daylight.settled_eq_active_iff

/-- Among settled samples, standard time is that of the first one outside daylight saving time. -/
theorem find?_inactive_settled :
    (samples.map LocalTime.settled).find? (·.daylight = .inactive) =
      (samples.find? (·.daylight ≠ .active)).map LocalTime.settled := by
  rw [List.find?_map]
  congr 2
  funext s
  exact decide_eq_decide.mpr Daylight.settled_eq_inactive_iff

theorem ofSamples_settled_of_not_active (h : stamp.daylight ≠ .active) :
    ofSamples stamp (samples.map LocalTime.settled) = ofSamples stamp samples := by
  unfold ofSamples
  rw [find?_active_settled]
  cases hd : stamp.daylight with
  | active => exact absurd hd h
  | inactive => cases samples.find? (·.daylight = .active) <;> rfl
  | unknown => cases samples.find? (·.daylight = .active) <;> rfl

/-- The sample that a search has found; the stamp stands in where it has found none. -/
def standardOf (found : Option LocalTime) : LocalTime := found.getD stamp

/-- The zone of a stamp in daylight saving time that takes its standard time from a sample. -/
def withStandard (standard : LocalTime) : Zone :=
  ⟨standard.utcOffset, some stamp.utcOffset, standard.nameOrEmpty, stamp.nameOrEmpty⟩

theorem ofSamples_of_active (h : stamp.daylight = .active) :
    ofSamples stamp samples =
      withStandard stamp (standardOf stamp (samples.find? (·.daylight = .inactive))) := by
  unfold ofSamples
  rw [h]
  cases samples.find? (·.daylight = .inactive) <;> rfl

theorem ofSamples_settled_of_active (h : stamp.daylight = .active) :
    ofSamples stamp (samples.map LocalTime.settled) =
      withStandard stamp (standardOf stamp (samples.find? (·.daylight ≠ .active))) := by
  rw [ofSamples_of_active stamp _ h, find?_inactive_settled]
  cases samples.find? (·.daylight ≠ .active) <;> rfl

/-- The first sample outside daylight saving time shows the standard time of the first one that is
known to be outside. -/
def StandardKnown : Prop :=
  stamp.daylight = .active →
    let first := standardOf stamp (samples.find? (·.daylight ≠ .active))
    let known := standardOf stamp (samples.find? (·.daylight = .inactive))
    first.utcOffset = known.utcOffset ∧ first.nameOrEmpty = known.nameOrEmpty

theorem ofSamples_settled_iff :
    ofSamples stamp.settled (samples.map LocalTime.settled) = ofSamples stamp samples ↔
      StandardKnown stamp samples := by
  rw [ofSamples_settled_stamp]
  by_cases h : stamp.daylight = .active
  · rw [ofSamples_settled_of_active stamp samples h, ofSamples_of_active stamp samples h]
    constructor
    · intro heq _
      obtain ⟨hoffset, -, hname, -⟩ := Zone.mk.inj heq
      exact ⟨hoffset, hname⟩
    · intro hknown
      obtain ⟨hoffset, hname⟩ := hknown h
      rw [withStandard, hoffset, hname]
      rfl
  · constructor
    · intro _ hactive
      exact absurd hactive h
    · intro _
      exact ofSamples_settled_of_not_active stamp samples h

end Zone

/-- **Where an unknown status counts as inactive.** Settling the status of a stamp and of its samples
leaves the zone and every line alone exactly if a stamp in daylight saving time finds the same
standard time in the first sample outside as in the first one known to be outside. For a stamp in any
other status it always does. -/
theorem settled_iff (stamp : LocalTime) (samples : List LocalTime) :
    (Zone.ofSamples stamp.settled (samples.map LocalTime.settled) = Zone.ofSamples stamp samples ∧
      ∀ format, stampLine format stamp.settled
        (Zone.ofSamples stamp.settled (samples.map LocalTime.settled)) =
          stampLine format stamp (Zone.ofSamples stamp samples)) ↔
      Zone.StandardKnown stamp samples := by
  constructor
  · rintro ⟨hzone, -⟩
    exact (Zone.ofSamples_settled_iff stamp samples).mp hzone
  · intro hknown
    have hzone := (Zone.ofSamples_settled_iff stamp samples).mpr hknown
    refine ⟨hzone, fun format => ?_⟩
    rw [hzone, stampLine_settled]

/-- A stamp in summer whose only sample of winter has an unknown status: its offset counts as
standard time of its own, until the status is settled. -/
theorem unknown_sample_unseen :
    let summer : LocalTime := ⟨2026, 7, 1, 12, 0, 0, 2, 182, some "CEST".toList, .active, 7200⟩
    let winter : LocalTime := ⟨2026, 1, 1, 0, 0, 0, 3, 1, some "CET".toList, .unknown, 3600⟩
    Zone.ofSamples summer.settled ([winter].map LocalTime.settled) ≠ Zone.ofSamples summer [winter] ∧
      ¬ Zone.StandardKnown summer [winter] ∧
      Zone.ofSamples summer [winter] = ⟨7200, some 7200, "CEST".toList, "CEST".toList⟩ ∧
      Zone.ofSamples summer.settled ([winter].map LocalTime.settled) =
        ⟨3600, some 7200, "CET".toList, "CEST".toList⟩ ∧
      stampLine "%!z".toList summer (Zone.ofSamples summer [winter]) = .ok "+0200".toList ∧
      stampLine "%!z".toList summer.settled
        (Zone.ofSamples summer.settled ([winter].map LocalTime.settled)) = .ok "+0100".toList := by
  intro summer winter
  refine ⟨by decide, ?_, rfl, rfl, ?_, ?_⟩
  · intro hknown
    exact absurd (hknown rfl).1 (by decide)
  · exact eq_ok_of_toOption (by decide +kernel)
  · exact eq_ok_of_toOption (by decide +kernel)

end Datestamp
