import Datestamp.Text

/-!
# Decimal numerals

Numbers are written in base ten with no leading zero, a minus sign before a negative one, and
read as the positional value of any run of digits. Main statement: reading a numeral gives the
number back (`value_digits`).
-/

namespace Datestamp.Decimal

/-! ## Writing -/

/-- The digit for `d`, which is below ten. -/
def digitChar (d : Nat) : Char := Char.ofNat ('0'.toNat + d)

/-- The digits of `n`, most significant first; zero is one digit. -/
def digits (n : Nat) : Text :=
  if n < 10 then [digitChar n] else digits (n / 10) ++ [digitChar (n % 10)]
termination_by n
decreasing_by omega

/-- The numeral of an integer. -/
def numeral (n : Int) : Text :=
  if n < 0 then '-' :: digits n.natAbs else digits n.natAbs

/-! ## Reading -/

/-- The number that one digit stands for. -/
def digitValue (c : Char) : Nat := c.toNat - '0'.toNat

/-- The positional value of a run of digits; an empty run counts as zero. -/
def value (ds : Text) : Nat := ds.foldl (fun n c => 10 * n + digitValue c) 0

/-- The longest run of digits at the head of a text, and the rest. -/
def span (t : Text) : Text × Text := (t.takeWhile Char.isDigit, t.dropWhile Char.isDigit)

/-- The number at the head of a text, which has to start with a digit, and the rest. -/
def read? (t : Text) : Option (Nat × Text) :=
  match span t with
  | ([], _) => none
  | (ds, rest) => some (value ds, rest)

/-! ## Reading gives back what was written -/

theorem isDigit_digitChar {d : Nat} (h : d < 10) : (digitChar d).isDigit = true := by
  have all : ∀ e ∈ List.range 10, (digitChar e).isDigit = true := by decide
  exact all d (List.mem_range.2 h)

theorem digitValue_digitChar {d : Nat} (h : d < 10) : digitValue (digitChar d) = d := by
  have all : ∀ e ∈ List.range 10, digitValue (digitChar e) = e := by decide
  exact all d (List.mem_range.2 h)

theorem value_concat (ds : Text) (c : Char) : value (ds ++ [c]) = 10 * value ds + digitValue c := by
  simp [value]

theorem value_digits (n : Nat) : value (digits n) = n := by
  induction n using digits.induct with
  | case1 n h => rw [digits, if_pos h]; simp [value, digitValue_digitChar h]
  | case2 n h ih =>
    rw [digits, if_neg h, value_concat, ih, digitValue_digitChar (Nat.mod_lt n (by omega))]
    omega

theorem isDigit_of_mem_digits {n : Nat} {c : Char} (h : c ∈ digits n) : c.isDigit = true := by
  induction n using digits.induct with
  | case1 n hn =>
    rw [digits, if_pos hn, List.mem_singleton] at h
    exact h ▸ isDigit_digitChar hn
  | case2 n hn ih =>
    rw [digits, if_neg hn, List.mem_append, List.mem_singleton] at h
    rcases h with h | h
    · exact ih h
    · exact h ▸ isDigit_digitChar (Nat.mod_lt n (by omega))

end Datestamp.Decimal
