import Datestamp.Text

/-!
# The program's name

A program is called by a path, whose last name is the program's own; the surroundings may set
another name, and the name of a suite that stands before it in diagnostics.
-/

namespace Datestamp

/-- The last name on a path. Empty names and `.` do not count; a path that ends in `..`, or has no
names at all, has none. -/
def lastName? (path : Text) : Option Text :=
  (((Text.split '/' path).filter fun name => name ≠ [] ∧ name ≠ ['.']).getLast?).filter
    (· ≠ ['.', '.'])

/-- A setting that counts only if it is not empty. -/
def nonempty? (setting : Option Text) : Option Text := setting.filter (· ≠ [])

/-- How a program calls itself: in its help screen, and in diagnostics. -/
structure ProgramName where
  name : Text
  diagnosticName : Text
deriving DecidableEq, Repr

namespace ProgramName

def default : Text := "stamp".toList

def version : Text := "1.0.0".toList

/-- The names of a program called by `path`, with the name and the suite that may be set. -/
def resolve (path command suite : Option Text) : ProgramName :=
  let name := ((nonempty? command).or (path.bind lastName?)).getD default
  { name := name
    diagnosticName := match nonempty? suite with
      | some suite => suite ++ ' ' :: name
      | none => name }

end ProgramName

end Datestamp
