import Datestamp.Text

/-!
# Character classes

A class of characters is given by the ascending code points at which membership changes: before
the first of them a character is outside, from the first to the second inside, and so on. The
tables of the character properties that this library needs are written in this form.
-/

namespace Datestamp

/-- A class of characters, as the code points at which membership changes. -/
structure CharClass where
  changes : List Nat

namespace CharClass

/-- Whether an odd number of the ascending `changes` lie at or below `n`. -/
def isInside : (changes : List Nat) → (n : Nat) → Bool
  | [], _ => false
  | change :: changes, n => if n < change then false else !isInside changes n

def contains (k : CharClass) (c : Char) : Bool := isInside k.changes c.toNat

end CharClass

end Datestamp
