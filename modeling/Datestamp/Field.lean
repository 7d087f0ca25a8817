import Datestamp.Decimal
import Datestamp.Zone

/-!
# Fields

A template refers to the parts of a stamp by name. There are twenty-one fields: nine of the local
time, and sign, hour, minute and second of each of the three offsets. Signs and the zone's name are
texts, all other fields are numbers.
-/

namespace Datestamp

/-! ## The names of the fields -/

/-- The fields of the local time. -/
inductive TimeField where
  | year
  | month
  | day
  | hour
  | minute
  | second
  | weekday
  | yearDay
  | zoneName
deriving DecidableEq, Repr

/-- The three offsets of a stamp. -/
inductive OffsetKind where
  | base
  | increment
  | effective
deriving DecidableEq, Repr

inductive OffsetPart where
  | sign
  | hour
  | minute
  | second
deriving DecidableEq, Repr

inductive Field where
  | time (f : TimeField)
  | offset (kind : OffsetKind) (part : OffsetPart)
deriving DecidableEq, Repr

def TimeField.name : TimeField → Text
  | .year => "tm_year".toList
  | .month => "tm_mon".toList
  | .day => "tm_mday".toList
  | .hour => "tm_hour".toList
  | .minute => "tm_min".toList
  | .second => "tm_sec".toList
  | .weekday => "tm_wday".toList
  | .yearDay => "tm_yday".toList
  | .zoneName => "tm_zone".toList

def OffsetKind.name : OffsetKind → Text
  | .base => "zone".toList
  | .increment => "dst".toList
  | .effective => "zd".toList

def OffsetPart.name : OffsetPart → Text
  | .sign => "sign".toList
  | .hour => "hour".toList
  | .minute => "min".toList
  | .second => "sec".toList

namespace Field

def name : Field → Text
  | .time f => f.name
  | .offset kind part => kind.name ++ '_' :: part.name

/-- Every field once. -/
def all : List Field :=
  [.time .year, .time .month, .time .day, .time .hour, .time .minute, .time .second,
    .time .weekday, .time .yearDay, .time .zoneName,
    .offset .base .sign, .offset .base .hour, .offset .base .minute, .offset .base .second,
    .offset .increment .sign, .offset .increment .hour, .offset .increment .minute,
    .offset .increment .second,
    .offset .effective .sign, .offset .effective .hour, .offset .effective .minute,
    .offset .effective .second]

/-- The field that a name refers to. -/
def ofName? (name : Text) : Option Field := all.find? (·.name = name)

theorem mem_all (f : Field) : f ∈ all := by
  rcases f with f | ⟨k, p⟩
  · cases f <;> decide
  · cases k <;> cases p <;> decide

theorem closing_not_mem_name (f : Field) : ')' ∉ f.name := by
  rcases f with f | ⟨k, p⟩
  · cases f <;> decide
  · cases k <;> cases p <;> decide

/-- A field's name refers to that field. -/
theorem ofName?_name (f : Field) : ofName? f.name = some f := by
  rcases f with f | ⟨k, p⟩
  · cases f <;> decide
  · cases k <;> cases p <;> decide

theorem ofName?_eq_some_iff {name : Text} {f : Field} : ofName? name = some f ↔ f.name = name := by
  refine ⟨fun h => ?_, fun h => h ▸ ofName?_name f⟩
  simpa using List.find?_some h

end Field

/-! ## Their values -/

/-- The value of a field. -/
inductive Value where
  | number (n : Int)
  | text (t : Text)
deriving DecidableEq, Repr

/-- The value as it is written without padding. -/
def Value.display : Value → Text
  | .number n => Decimal.numeral n
  | .text t => t

/-- What the fields of one stamp are read from: its local time, the zone name shown, and its three
offsets. -/
structure Fields where
  time : LocalTime
  zoneName : Text
  base : ClockOffset
  increment : ClockOffset
  effective : ClockOffset
deriving DecidableEq, Repr

/-- The value of one part of an offset. -/
def ClockOffset.part (o : ClockOffset) : OffsetPart → Value
  | .sign => .text [o.sign.symbol]
  | .hour => .number o.hour.toNat
  | .minute => .number o.minute.toNat
  | .second => .number o.second.toNat

namespace Fields

/-- The fields of a local time in a zone. A name that the local time brings along wins over the
zone's names. -/
def of (time : LocalTime) (zone : Zone) : Except Fault Fields :=
  (zone.increment time.daylight).map fun increment =>
    { time := time
      zoneName := time.zoneName.getD (zone.nameAt time.daylight)
      base := zone.base
      increment := increment
      effective := zone.effective time.daylight }

def offset (fs : Fields) : OffsetKind → ClockOffset
  | .base => fs.base
  | .increment => fs.increment
  | .effective => fs.effective

def timeValue (fs : Fields) : TimeField → Value
  | .year => .number fs.time.year
  | .month => .number fs.time.month
  | .day => .number fs.time.day
  | .hour => .number fs.time.hour
  | .minute => .number fs.time.minute
  | .second => .number fs.time.second
  | .weekday => .number fs.time.weekday
  | .yearDay => .number fs.time.yearDay
  | .zoneName => .text fs.zoneName

def value (fs : Fields) : Field → Value
  | .time f => fs.timeValue f
  | .offset kind part => (fs.offset kind).part part

/-- The value that a name refers to. -/
def get? (fs : Fields) (name : Text) : Option Value := (Field.ofName? name).map fs.value

theorem get?_name (fs : Fields) (f : Field) : fs.get? f.name = some (fs.value f) := by
  rw [get?, Field.ofName?_name]
  rfl

/-- A name without a value is the name of no field. -/
theorem get?_eq_none_iff {fs : Fields} {name : Text} :
    fs.get? name = none ↔ ∀ f : Field, f.name ≠ name := by
  rw [get?, Option.map_eq_none_iff]
  constructor
  · intro h f hf
    rw [← hf, Field.ofName?_name] at h
    exact absurd h (by simp)
  · intro h
    cases hf : Field.ofName? name with
    | none => rfl
    | some f => exact absurd (Field.ofName?_eq_some_iff.mp hf) (h f)

end Fields

end Datestamp
