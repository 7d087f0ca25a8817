import Datestamp.ClockOffset
import Datestamp.Failure
import Datestamp.LocalTime

/-!
# Zones

What a stamp knows of its zone: offset and name of standard time, and of daylight saving time if
the zone has any. Three offsets are shown: that of standard time, the increment of daylight saving
time, and the one in effect. Daylight saving time counts only while it is known to be active.
-/

namespace Datestamp

/-- Offsets and names of a zone's two kinds of time; offsets are in seconds east of Greenwich. -/
structure Zone where
  standardOffset : Int
  daylightOffset : Option Int
  standardName : Text
  daylightName : Text
deriving DecidableEq, Repr

namespace Zone

/-- A zone with one offset all year round. -/
def fixed (offset : Int) (name : Text) : Zone := ⟨offset, none, name, name⟩

/-- The daylight saving offset, if it is the one in effect. -/
def activeOffset? (z : Zone) : Daylight → Option Int
  | .active => z.daylightOffset
  | .inactive | .unknown => none

/-- The offset of standard time. -/
def base (z : Zone) : ClockOffset := .ofSeconds z.standardOffset

/-- What daylight saving time adds to the base while it is in effect. -/
def increment (z : Zone) (status : Daylight) : Except Fault ClockOffset :=
  match z.activeOffset? status with
  | some offset => (checked FitsInt64 .subtract (offset - z.standardOffset)).map .ofSeconds
  | none => .ok .zero

/-- The offset in effect. -/
def effective (z : Zone) (status : Daylight) : ClockOffset :=
  match z.activeOffset? status with
  | some offset => .ofSeconds offset
  | none => z.base

/-- The name in effect. -/
def nameAt (z : Zone) (status : Daylight) : Text :=
  match z.activeOffset? status with
  | some _ => z.daylightName
  | none => z.standardName

/-! ## When the increment is defined -/

theorem activeOffset?_eq_some_iff {z : Zone} {status : Daylight} {offset : Int} :
    z.activeOffset? status = some offset ↔ status = .active ∧ z.daylightOffset = some offset := by
  cases status with
  | active => simp [activeOffset?]
  | inactive => simp [activeOffset?]
  | unknown => simp [activeOffset?]

theorem increment_of_fits {z : Zone} {status : Daylight} {offset : Int}
    (ha : z.activeOffset? status = some offset) (hf : FitsInt64 (offset - z.standardOffset)) :
    z.increment status = .ok (.ofSeconds (offset - z.standardOffset)) := by
  simp only [increment, ha, checked_eq_ok hf]
  rfl

/-- Two offsets that are too far apart have no difference. -/
theorem increment_of_not_fits {z : Zone} {status : Daylight} {offset : Int}
    (ha : z.activeOffset? status = some offset) (hf : ¬ FitsInt64 (offset - z.standardOffset)) :
    z.increment status = .error (.overflow .subtract) := by
  simp only [increment, ha, checked_eq_error hf]
  rfl

theorem increment_of_none {z : Zone} {status : Daylight} (ha : z.activeOffset? status = none) :
    z.increment status = .ok .zero := by
  simp only [increment, ha]

end Zone

end Datestamp
