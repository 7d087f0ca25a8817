import Datestamp.Format

/-!
# Expanded formats

Two formats may be spelled differently and still ask for the same. The expansion of a format
removes the choices of spelling: runs fall into their characters, `%%` is the percent sign, and a
whole offset is its sign, hour and minute.
-/

namespace Datestamp.Format

/-- What a token asks for, in single steps. -/
def Token.expand : Token → List Piece
  | .literal run => run.map .char
  | .directive .percent => [.char '%']
  | .directive (.offset kind none) =>
    [.sign, .hour, .minute].map fun part => .directive (.offset kind (some part))
  | .directive d => [.directive d]

/-- What a format asks for, in single steps. -/
def expand (format : Text) : List Piece := (tokens format).flatMap Token.expand

end Datestamp.Format
