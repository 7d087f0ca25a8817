import Datestamp.Field

/-!
# Placeholders

A placeholder names a field and says how its value is written: as a number or as a text, in at
least a given number of characters, a number with zeros in front if it is flagged so. It is
written `(name)`, an optional `0`, an optional width and one of the letters `d` and `s`.

Writing a placeholder and reading it are inverse to each other wherever the name has no closing
bracket and the width fits a word of 64 bits.
-/

namespace Datestamp

/-- How a value is written: as a number or as a text. -/
inductive Conversion where
  | number
  | text
deriving DecidableEq, Repr

def Conversion.letter : Conversion → Char
  | .number => 'd'
  | .text => 's'

structure Placeholder where
  name : Text
  zeroPad : Bool
  width : Nat
  conversion : Conversion
deriving DecidableEq, Repr

namespace Placeholder

/-! ## Writing and reading a placeholder -/

/-- The placeholder in its shortest form: a width of zero is left out. -/
def print (p : Placeholder) : Text :=
  '(' :: p.name ++ ')' :: (if p.zeroPad then ['0'] else []) ++
    (if p.width = 0 then [] else Decimal.digits p.width) ++ [p.conversion.letter]

/-- The conversion letter at the head of a text, and the rest. -/
def readConversion? : Text → Option (Conversion × Text)
  | 'd' :: rest => some (.number, rest)
  | 's' :: rest => some (.text, rest)
  | _ => none

/-- The zero flag, if a text starts with it, and the rest. -/
def readZeroFlag : Text → Bool × Text
  | '0' :: rest => (true, rest)
  | rest => (false, rest)

/-- The largest number that a word of 64 bits holds. -/
def maxWord : Nat := 18446744073709551615

/-- What follows the name: flag, width and letter. The first zero is the flag, further ones belong
to the width, and a width has to fit a word of 64 bits. -/
def readSpec? (name spec : Text) : Option (Placeholder × Text) :=
  let (zeroPad, spec) := readZeroFlag spec
  let (digits, spec) := Decimal.span spec
  if Decimal.value digits ≤ maxWord then
    (readConversion? spec).map fun (conversion, rest) =>
      (⟨name, zeroPad, Decimal.value digits, conversion⟩, rest)
  else none

/-- The placeholder at the head of a text, and the rest. The name ends at the first closing
bracket and may be empty. -/
def read? : Text → Option (Placeholder × Text)
  | '(' :: body => (Text.cut? ')' body).bind fun (name, spec) => readSpec? name spec
  | _ => none

/-! ## Filling it in -/

/-- The largest width that the writer accepts. -/
def maxWidth : Nat := 65535

/-- A numeral in at least `width` characters, zeros standing between its sign and its digits. -/
def zeroPadded (width : Nat) (n : Int) : Text :=
  if n < 0 then '-' :: (Decimal.digits n.natAbs).leftpad (width - 1) '0'
  else (Decimal.digits n.natAbs).leftpad width '0'

/-- A text in at least `width` characters, blanks standing before it. -/
def blankPadded (width : Nat) (t : Text) : Text := t.leftpad width ' '

/-- The width that the writer sees: the sign of a zero-padded number is written apart. -/
def writerWidth (p : Placeholder) : Value → Nat
  | .number n => if p.zeroPad ∧ p.conversion = .number ∧ n < 0 then p.width - 1 else p.width
  | .text _ => p.width

/-- The value in the form that the placeholder asks for, of whatever width. -/
def format (p : Placeholder) : Value → Text
  | .number n =>
    if p.zeroPad ∧ p.conversion = .number then zeroPadded p.width n
    else blankPadded p.width (Decimal.numeral n)
  | .text t => blankPadded p.width t

/-- Writes a value. A text cannot be written as a number, and a width has its limit. -/
def write (p : Placeholder) (v : Value) : Except Fault Text :=
  match p.conversion, v with
  | .number, .text _ => .error (.notNumber p.name)
  | _, v => if p.writerWidth v ≤ maxWidth then .ok (p.format v) else .error .widthOutOfRange

/-- Writes the field that the placeholder names. -/
def fill (p : Placeholder) (fs : Fields) : Except Fault Text :=
  match fs.get? p.name with
  | none => .error (.unknownField p.name)
  | some v => p.write v

/-! ## Reading consumes something -/

theorem length_of_readConversion? {t rest : Text} {c : Conversion}
    (h : readConversion? t = some (c, rest)) : rest.length < t.length := by
  unfold readConversion? at h
  split at h <;> simp_all

theorem length_readZeroFlag (t : Text) : (readZeroFlag t).2.length ≤ t.length := by
  unfold readZeroFlag
  split <;> simp

theorem length_of_readSpec? {name spec rest : Text} {p : Placeholder}
    (h : readSpec? name spec = some (p, rest)) : rest.length < spec.length := by
  simp only [readSpec?, Option.map_eq_some_iff, Option.ite_none_right_eq_some, Prod.mk.injEq] at h
  obtain ⟨-, ⟨c, r⟩, hc, -, rfl⟩ := h
  calc r.length
    _ < ((readZeroFlag spec).2.dropWhile Char.isDigit).length := length_of_readConversion? hc
    _ ≤ (readZeroFlag spec).2.length := (List.dropWhile_sublist _).length_le
    _ ≤ spec.length := length_readZeroFlag spec

theorem length_of_read? {t rest : Text} {p : Placeholder} (h : read? t = some (p, rest)) :
    rest.length < t.length := by
  unfold read? at h
  split at h
  · simp only [Option.bind_eq_some_iff] at h
    obtain ⟨⟨name, spec⟩, hc, hs⟩ := h
    have hlt : rest.length < spec.length := length_of_readSpec? hs
    simp only [(Text.eq_append_of_cut? hc).1, List.length_cons, List.length_append]
    omega
  · simp at h

end Placeholder

end Datestamp
