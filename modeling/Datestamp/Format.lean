import Datestamp.Directive

/-!
# Formats

A format is a text with directives in it. Read from left to right it is a list of pieces, each a
directive or a single character; a percent sign that starts no directive is a character like any
other. The tokens of a format are its pieces with neighbouring characters joined to runs, and its
template is the concatenation of theirs, the percent signs of the runs doubled.
-/

namespace Datestamp.Format

/-- The format used when none is given. -/
def default : Text := "%Y-%m-%d %H:%M:%S %z".toList

/-! ## Pieces and tokens -/

/-- A character or a directive. -/
inductive Piece where
  | char (c : Char)
  | directive (d : Directive)
deriving DecidableEq, Repr

/-- The pieces of a format, from left to right. -/
def pieces : Text → List Piece
  | [] => []
  | c :: rest =>
    match Directive.longest? (c :: rest) with
    | some d =>
      have := d.token_length_pos
      .directive d :: pieces ((c :: rest).drop d.token.length)
    | none => .char c :: pieces rest
termination_by t => t.length

/-- A run of characters or a directive. -/
inductive Token where
  | literal (run : Text)
  | directive (d : Directive)
deriving DecidableEq, Repr

/-- Puts a character in front of tokens, into the run at their head if there is one. -/
def consChar (c : Char) : List Token → List Token
  | .literal run :: tokens => .literal (c :: run) :: tokens
  | tokens => .literal [c] :: tokens

/-- Joins neighbouring characters to runs. -/
def join : List Piece → List Token
  | [] => []
  | .char c :: pieces => consChar c (join pieces)
  | .directive d :: pieces => .directive d :: join pieces

/-- The tokens of a format. -/
def tokens (format : Text) : List Token := join (pieces format)

/-- The text of a token in its format. -/
def Token.text : Token → Text
  | .literal run => run
  | .directive d => d.token

/-! ## Compilation -/

/-- A text with every percent sign doubled. -/
def doublePercents (t : Text) : Text := t.flatMap fun c => if c = '%' then ['%', '%'] else [c]

theorem doublePercents_cons (c : Char) (t : Text) :
    doublePercents (c :: t) = doublePercents [c] ++ doublePercents t := by
  simp only [doublePercents, List.flatMap_cons, List.flatMap_nil, List.append_nil]

theorem doublePercents_char {c : Char} (hc : c ≠ '%') (t : Text) :
    doublePercents (c :: t) = c :: doublePercents t := by
  rw [doublePercents, List.flatMap_cons, if_neg hc]
  rfl

/-- What a token becomes in the template. -/
def Token.template : Token → Text
  | .literal run => doublePercents run
  | .directive d => d.template

/-- The template of a format. -/
def compile (format : Text) : Text := (tokens format).flatMap Token.template

end Datestamp.Format
