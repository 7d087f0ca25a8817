import Datestamp.EventFilter
import Datestamp.Format
import Datestamp.Text.Quoted
import Datestamp.Zone

/-!
# Events

A run tells what it does by events, each with a level, a target, a message and values. An event
takes one line.
-/

namespace Datestamp

structure Event where
  level : Level
  target : Text
  message : Text
  values : List (Text × Text)  -- names, and values as they are shown

namespace Event

/-- The line of an event. -/
def line (e : Event) : Text :=
  e.level.name ++ ' ' :: e.target ++ ": ".toList ++ e.message ++
    e.values.flatMap fun (name, value) => ' ' :: name ++ '=' :: value

def showDaylight : Daylight → Text
  | .unknown => "Unknown".toList
  | .inactive => "Inactive".toList
  | .active => "Active".toList

def showOffset : Option Int → Text
  | none => "None".toList
  | some offset => "Some(".toList ++ Decimal.numeral offset ++ [')']

/-- An instant has been resolved and its zone observed. -/
def resolved (instant : Int) (stamp : LocalTime) (zone : Zone) : Event where
  level := .debug
  target := "stamp".toList
  message := "resolved timestamp".toList
  values := [
    ("instant".toList, Decimal.numeral instant),
    ("dst".toList, showDaylight stamp.daylight),
    ("standard_offset".toList, Decimal.numeral zone.standardOffset),
    ("dst_offset".toList, showOffset zone.daylightOffset),
    ("combined".toList, Decimal.numeral (zone.effective stamp.daylight).toSeconds)]

/-- A format has been compiled. -/
def compiled (format : Text) : Event where
  level := .trace
  target := "stamp::format".toList
  message := "compiled format".toList
  values := [
    ("format".toList, Text.quote format),
    ("template".toList, Text.quote (Format.compile format))]

end Event

end Datestamp
