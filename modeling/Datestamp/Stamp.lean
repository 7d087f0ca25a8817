import Datestamp.Template
import Datestamp.Format
import Datestamp.Zone.Observed

/-!
# Stamps

The line of a stamp: a format is compiled, and its template filled in from the fields of a local
time in a zone.
-/

namespace Datestamp

/-- A format filled in for a local time in a zone. -/
def stampLine (format : Text) (time : LocalTime) (zone : Zone) : Except Fault Text := do
  let fields ← Fields.of time zone
  Template.render (Format.compile format) fields

/-- A format filled in for an instant, in the zone of a host. -/
def instantLine (host : Host) (format : Text) (instant : Int) : Except Failure Text := do
  let (time, zone) ← LocalTime.observe host instant
  (stampLine format time zone).mapError .fault

end Datestamp
