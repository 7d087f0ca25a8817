import Datestamp.Text.Printable

/-!
# Quoted texts

A diagnostic shows a text between double quotes, so that it takes one line and every character of
it can be told: quote, backslash and the common controls get a short escape, every other character
that has no form of its own its code point. The apostrophe is not escaped.
-/

namespace Datestamp.Text

/-- The hexadecimal digit for `d`, which is below sixteen, in lower case. -/
def hexChar (d : Nat) : Char :=
  if d < 10 then Char.ofNat ('0'.toNat + d) else Char.ofNat ('a'.toNat + (d - 10))

/-- The hexadecimal digits of `n`, most significant first. -/
def hexDigits (n : Nat) : Text :=
  if n < 16 then [hexChar n] else hexDigits (n / 16) ++ [hexChar (n % 16)]
termination_by n
decreasing_by omega

/-- The form of one character between quotes. -/
def escape (c : Char) : Text :=
  if c = '"' then ['\\', '"']
  else if c = '\\' then ['\\', '\\']
  else if c = '\n' then ['\\', 'n']
  else if c = '\r' then ['\\', 'r']
  else if c = '\t' then ['\\', 't']
  else if c = '\x00' then ['\\', '0']
  else if isShown c then [c]
  else ['\\', 'u', '{'] ++ hexDigits c.toNat ++ ['}']

/-- The text between double quotes. -/
def quote (t : Text) : Text := '"' :: t.flatMap escape ++ ['"']

end Datestamp.Text
