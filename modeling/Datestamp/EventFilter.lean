import Datestamp.Text.Blank

/-!
# Event filters

A specification lists, between commas, which events are wanted: a level, a target, or both joined
by an equals sign. A level admits itself and all that is more severe, a target every target that
starts with it. A specification without any filter admits every event.
-/

namespace Datestamp

/-! ## Levels -/

/-- How severe an event is, from the most to the least severe. -/
inductive Level where
  | error
  | warn
  | info
  | debug
  | trace
deriving DecidableEq, Repr

namespace Level

/-- The place of a level in the order, the most severe being 0. -/
def rank : Level → Nat
  | .error => 0
  | .warn => 1
  | .info => 2
  | .debug => 3
  | .trace => 4

def name : Level → Text
  | .error => "ERROR".toList
  | .warn => "WARN".toList
  | .info => "INFO".toList
  | .debug => "DEBUG".toList
  | .trace => "TRACE".toList

/-- The words for the levels, in lower case. -/
def words : List (Text × Level) :=
  [("error".toList, .error), ("warn".toList, .warn), ("warning".toList, .warn),
    ("info".toList, .info), ("debug".toList, .debug), ("trace".toList, .trace)]

/-- The level that a word stands for, in any case of its letters. The words are ASCII, and no other
letter has one of theirs as its lower case, so only the case of ASCII letters is changed. -/
def ofWord? (word : Text) : Option Level := words.lookup (word.map Char.toLower)

end Level

/-! ## Filters -/

/-- A filter without a target admits every target, one without a level every level. -/
structure EventFilter where
  target : Option Text
  level : Option Level
deriving DecidableEq, Repr

namespace EventFilter

/-- The filter that a part of a specification describes. What follows an equals sign and is no
level counts as no level; a lone word that is no level is a target. -/
def ofPart (part : Text) : EventFilter :=
  match Text.cut? '=' part with
  | some (target, level) => ⟨some target, Level.ofWord? level⟩
  | none =>
    match Level.ofWord? part with
    | some level => ⟨none, some level⟩
    | none => ⟨some part, none⟩

/-- The parts of a specification that are not blank, without the blanks around them. -/
def parts (specification : Text) : List Text :=
  ((Text.split ',' specification).map Text.trim).filter (· ≠ [])

/-- The filters of a specification. -/
def parse (specification : Text) : List EventFilter := (parts specification).map ofPart

/-- Whether a filter admits the events of a level and a target. -/
def admits (f : EventFilter) (level : Level) (target : Text) : Bool :=
  (match f.level with
    | some limit => decide (level.rank ≤ limit.rank)
    | none => true) &&
  (match f.target with
    | some lead => lead.isPrefixOf target
    | none => true)

/-- Whether some filter admits an event; no filter at all admits every event. -/
def accepts (filters : List EventFilter) (level : Level) (target : Text) : Bool :=
  filters.isEmpty || filters.any (·.admits level target)

/-- A filter written as a part of a specification. -/
def print (f : EventFilter) : Text :=
  match f.target, f.level with
  | none, none => []
  | none, some level => level.name
  | some target, none => target ++ ['=']
  | some target, some level => target ++ '=' :: level.name

end EventFilter

end Datestamp
