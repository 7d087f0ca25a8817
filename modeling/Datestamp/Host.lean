import Datestamp.Text

/-!
# The host

What a run takes from its surroundings: the time now, the change times of files, and the local times
of instants. A path that cannot be opened has one of four causes, or another one that only the host
can name; and the host may fail to tell the times of a file that it has opened. Nothing is known here
of its calendar and its zone. It may refuse to break an instant down.
-/

namespace Datestamp

/-- Why the change time of a file cannot be told. -/
inductive FileError where
  | nulInName    -- the path holds the character NUL
  | notFound     -- a name on the path does not exist
  | notFolder    -- a name on the path other than a folder has something below it
  | nameTooLong  -- the path or a name on it exceeds the limit
  | other (reason : Text)
  | unreadable (reason : Text)  -- the file opens, but its times cannot be read
deriving DecidableEq, Repr

/-- What could not be done with the file. -/
def FileError.attempt : FileError → Text
  | .nulInName | .notFound | .notFolder | .nameTooLong | .other _ => "Cannot open file".toList
  | .unreadable _ => "Cannot read metadata of".toList

def FileError.message : FileError → Text
  | .nulInName => "file name contained an unexpected NUL byte".toList
  | .notFound => "No such file or directory (os error 2)".toList
  | .notFolder => "Not a directory (os error 20)".toList
  | .nameTooLong => "File name too long (os error 36)".toList
  | .other reason | .unreadable reason => reason

/-- An instant as the host breaks it down. Years count from 1900, months and days of the year from
zero, days of the month from one; the week starts with Sunday as zero. The flag of daylight saving
time is negative where the host does not know. The zone's offset is in seconds east of Greenwich. -/
structure HostTime where
  year : Int32
  month : Int32
  day : Int32
  hour : Int32
  minute : Int32
  second : Int32
  weekday : Int32
  yearDay : Int32
  daylight : Int32
  offset : Int64
  zoneName : Option Text
deriving DecidableEq, Repr

/-- The clock, the files and the zone of a host; instants are seconds since 1970 in UTC. -/
structure Host where
  now : Int
  changeTime : (path : Text) → Except FileError Int
  localTime : (instant : Int) → Option HostTime

end Datestamp
