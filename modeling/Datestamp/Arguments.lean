import Datestamp.Failure
import Datestamp.Format

/-!
# Arguments

Each argument of the command line is a setting, or an option that is not known or has no value.
Settings are taken in turn, so that the last one of a kind wins; the first argument that is no
setting is the problem that is reported.
-/

namespace Datestamp

/-- What one argument asks for. -/
inductive Setting where
  | help
  | version
  | format (format : Text)
  | file (path : Text)
deriving DecidableEq, Repr

/-- The value of an option, which must not be empty. -/
def Setting.nonempty (argument value : Text) : Except Problem Text :=
  if value = [] then .error (.illFormedOption argument) else .ok value

/-- The flags that ask for help. -/
def Setting.helpFlags : List Text := ["--help".toList, "-h".toList, "-?".toList]

/-- The setting that an argument asks for. -/
def Setting.ofArgument (argument : Text) : Except Problem Setting :=
  if argument ∈ helpFlags then .ok .help
  else if argument = "--version".toList then .ok .version
  else match Text.strip? "--format=".toList argument with
    | some value => (nonempty argument value).map .format
    | none => match Text.strip? "--file=".toList argument with
      | some value => (nonempty argument value).map .file
      | none => .error (.invalidOption argument)

/-- What the command line asks for: help, the version, or a stamp of now or of a file. -/
structure Arguments where
  file : Option Text := none
  format : Text := Format.default
  help : Bool := false
  version : Bool := false
deriving DecidableEq, Repr

namespace Arguments

/-- The arguments with one more setting. -/
def set (a : Arguments) : Setting → Arguments
  | .help => { a with help := true }
  | .version => { a with version := true }
  | .format format => { a with format := format }
  | .file path => { a with file := some path }

/-- The settings of a command line, the first problem being reported. -/
def settings (arguments : List Text) : Except Problem (List Setting) :=
  arguments.mapM Setting.ofArgument

/-- What a command line asks for. -/
def parse (arguments : List Text) : Except Problem Arguments :=
  (settings arguments).map (·.foldl set {})

end Arguments

end Datestamp
