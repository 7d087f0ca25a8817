import Datestamp.Proofs.Placeholder.Padding
import Datestamp.Proofs.Template.Outcome

/-!
# What a width does to a value

A width adds characters and takes none away. A number written as a number gets zeros between its sign
and its digits if the placeholder has the zero flag, and blanks before its sign otherwise; in either
form it has the greater of the width and its own length, and is read back (`write_pads`). A negative
number has its sign written apart, and a width less by one for what remains. This gives the very same
text as one width for the whole, whether the width is zero, one or shorter than the numeral. Whatever
is written as a text gets blanks before it, and the zero flag is of no account.
-/

namespace Datestamp

namespace Decimal

/-! ## Sign and digits -/

/-- The sign that is written: a minus for negative numbers, and nothing for the others. -/
def signText (n : Int) : Text := if n < 0 then ['-'] else []

theorem numeral_eq (n : Int) : numeral n = signText n ++ digits n.natAbs := by
  unfold numeral signText
  split <;> rfl

/-! ## Reading a whole text -/

/-- The number that a text of digits stands for. -/
def whole? (t : Text) : Option Nat :=
  match read? t with
  | some (n, []) => some n
  | _ => none

/-- The integer that a text stands for: any blanks, a minus or none, and digits to the end. -/
def readPadded? (t : Text) : Option Int :=
  match t.dropWhile (· = ' ') with
  | '-' :: ds => (whole? ds).map fun n : Nat => -(n : Int)
  | ds => (whole? ds).map fun n : Nat => (n : Int)

theorem whole?_of_digits {ds : Text} (hne : ds ≠ []) (hds : ∀ c ∈ ds, c.isDigit = true) :
    whole? ds = some (value ds) := by
  have hspan : span ds = (ds, []) := by
    rw [span, ← List.append_nil ds, List.takeWhile_append_of_pos hds,
      List.dropWhile_append_of_pos hds]
    simp
  cases ds with
  | nil => exact absurd rfl hne
  | cons d ds => simp [whole?, read?, hspan]

theorem readPadded?_blanks_append (k : Nat) (t : Text) :
    readPadded? (List.replicate k ' ' ++ t) = readPadded? t := by
  unfold readPadded?
  rw [List.dropWhile_append_of_pos]
  simp

/-- Digits start with neither a blank nor a sign. -/
theorem readPadded?_of_digits {ds : Text} (hne : ds ≠ []) (hds : ∀ c ∈ ds, c.isDigit = true) :
    readPadded? ds = some (value ds : Int) := by
  have hdrop : ds.dropWhile (· = ' ') = ds := by
    cases ds with
    | nil => rfl
    | cons d ds =>
        have hblank : d ≠ ' ' := by
          rintro rfl
          exact absurd (hds ' ' List.mem_cons_self) (by decide)
        simp [hblank]
  unfold readPadded?
  rw [hdrop]
  split
  · exact absurd (hds '-' List.mem_cons_self) (by decide)
  · rw [whole?_of_digits hne hds]
    rfl

/-- A sign and digits after it are read back, whatever zeros the digits start with. -/
theorem readPadded?_signText_append {n : Int} {ds : Text} (hne : ds ≠ [])
    (hds : ∀ c ∈ ds, c.isDigit = true) (hvalue : value ds = n.natAbs) :
    readPadded? (signText n ++ ds) = some n := by
  by_cases hn : n < 0
  · rw [signText, if_pos hn]
    show (whole? ds).map (fun m : Nat => -(m : Int)) = some n
    rw [whole?_of_digits hne hds, hvalue, Option.map_some]
    exact congrArg some (by omega)
  · rw [signText, if_neg hn, List.nil_append, readPadded?_of_digits hne hds, hvalue]
    exact congrArg some (by omega)

end Decimal

namespace Placeholder

open Decimal

/-! ## Zeros between sign and digits -/

/-- The sign apart with a width less by one is the sign in front of what is padded. -/
theorem zeroPadded_eq_leftpad (width : Nat) (n : Int) :
    zeroPadded width n =
      signText n ++ (digits n.natAbs).leftpad (width - (signText n).length) '0' := by
  unfold zeroPadded signText
  split <;> rfl

/-- As many zeros are written as the whole numeral lacks of the width. -/
theorem zeroPadded_eq (width : Nat) (n : Int) :
    zeroPadded width n =
      signText n ++ (List.replicate (width - (numeral n).length) '0' ++ digits n.natAbs) := by
  rw [zeroPadded_eq_leftpad, numeral_eq, List.length_append, ← Nat.sub_sub]
  rfl

theorem length_zeroPadded (width : Nat) (n : Int) :
    (zeroPadded width n).length = max width (numeral n).length := by
  rw [zeroPadded_eq, numeral_eq]
  simp only [List.length_append, List.length_replicate]
  omega

theorem readPadded?_zeroPadded (width : Nat) (n : Int) :
    readPadded? (zeroPadded width n) = some n := by
  rw [zeroPadded_eq_leftpad]
  exact readPadded?_signText_append (leftpad_digits_ne_nil _ _)
    (fun _ => isDigit_of_mem_leftpad) (value_leftpad _ _)

/-! ## Blanks before the whole -/

theorem blankPadded_eq (width : Nat) (t : Text) :
    blankPadded width t = List.replicate (width - t.length) ' ' ++ t := rfl

theorem readPadded?_blankPadded (width : Nat) (n : Int) :
    readPadded? (blankPadded width (numeral n)) = some n := by
  rw [blankPadded_eq, readPadded?_blanks_append, numeral_eq]
  exact readPadded?_signText_append (digits_ne_nil _) (fun _ => isDigit_of_mem_digits)
    (value_digits _)

/-! ## What is written -/

/-- A number in the form that its placeholder asks for: zeros between sign and digits with the zero
flag, blanks before the sign without it. -/
def paddedNumber (p : Placeholder) (n : Int) : Text :=
  let missing := p.width - (numeral n).length
  if p.zeroPad then signText n ++ List.replicate missing '0' ++ digits n.natAbs
  else List.replicate missing ' ' ++ signText n ++ digits n.natAbs

theorem format_number {p : Placeholder} (h : p.conversion = .number) (n : Int) :
    p.format (.number n) = p.paddedNumber n := by
  unfold format paddedNumber
  by_cases hz : p.zeroPad = true
  · simp [hz, h, zeroPadded_eq]
  · simp [hz, blankPadded_eq, ← numeral_eq]

/-- One of the two forms, whatever is asked for. -/
theorem format_number_cases (p : Placeholder) (n : Int) :
    p.format (.number n) = zeroPadded p.width n ∨
      p.format (.number n) = blankPadded p.width (numeral n) := by
  by_cases h : p.zeroPad ∧ p.conversion = .number
  · exact .inl (if_pos h)
  · exact .inr (if_neg h)

theorem length_format_number (p : Placeholder) (n : Int) :
    (p.format (.number n)).length = max p.width (numeral n).length := by
  rcases p.format_number_cases n with h | h
  · rw [h, length_zeroPadded]
  · rw [h, blankPadded, List.length_leftpad]

theorem readPadded?_format_number (p : Placeholder) (n : Int) :
    readPadded? (p.format (.number n)) = some n := by
  rcases p.format_number_cases n with h | h
  · rw [h, readPadded?_zeroPadded]
  · rw [h, readPadded?_blankPadded]

theorem format_text {p : Placeholder} (h : p.conversion = .text) (v : Value) :
    p.format v = List.replicate (p.width - v.display.length) ' ' ++ v.display := by
  cases v with
  | number n => simp [format, h, Value.display, blankPadded_eq]
  | text t => rfl

/-- **Padding neither cuts a value nor changes it.** A number that is written as a number takes up the
width, or its own length if that is greater; it is read back, and it is the sign and the digits with
zeros between them or blanks in front. A value that is written as a text is that text, with the blanks
in front that it lacks of the width. -/
theorem write_pads {p : Placeholder} {v : Value} (hfits : p.Fits v) :
    (∀ n, p.conversion = .number → v = .number n →
      ∃ t, p.write v = .ok t ∧ t.length = max p.width (numeral n).length ∧
        readPadded? t = some n ∧ t = p.paddedNumber n) ∧
      (p.conversion = .text →
        p.write v = .ok (List.replicate (p.width - v.display.length) ' ' ++ v.display)) := by
  constructor
  · rintro n hnumber rfl
    exact ⟨_, write_eq_ok (fun _ => ⟨n, rfl⟩) hfits, p.length_format_number n,
      p.readPadded?_format_number n, format_number hnumber n⟩
  · intro htext
    have hsuits : p.Suits v := fun hnumber => nomatch htext.symm.trans hnumber
    rw [write_eq_ok hsuits hfits, format_text htext]

/-- The least number of 64 bits at the greatest width that it is given, and just above its length; a
negative number at a width of one; and a name at a width with the zero flag. -/
theorem write_pads_least_number :
    (∃ t, write ⟨"tm_year".toList, true, 65536, .number⟩ (.number (-9223372036854775808)) = .ok t ∧
      t.length = 65536 ∧ readPadded? t = some (-9223372036854775808)) ∧
    write ⟨"tm_year".toList, true, 22, .number⟩ (.number (-9223372036854775808)) =
      .ok "-009223372036854775808".toList ∧
    write ⟨"tm_year".toList, false, 22, .number⟩ (.number (-9223372036854775808)) =
      .ok "  -9223372036854775808".toList ∧
    write ⟨"tm_year".toList, true, 1, .number⟩ (.number (-5)) = .ok "-5".toList ∧
    write ⟨"tm_zone".toList, true, 4, .text⟩ (.text ['U', 'T']) = .ok "  UT".toList := by
  have hgreatest : Fits ⟨"tm_year".toList, true, 65536, .number⟩ (.number (-9223372036854775808)) :=
    .inr ⟨rfl, rfl, rfl, _, by decide, rfl⟩
  have hzeros : Fits ⟨"tm_year".toList, true, 22, .number⟩ (.number (-9223372036854775808)) :=
    .inl (by decide)
  have hblanks : Fits ⟨"tm_year".toList, false, 22, .number⟩ (.number (-9223372036854775808)) :=
    .inl (by decide)
  have hnarrow : Fits ⟨"tm_year".toList, true, 1, .number⟩ (.number (-5)) := .inl (by decide)
  have hname : Fits ⟨"tm_zone".toList, true, 4, .text⟩ (.text ['U', 'T']) := .inl (by decide)
  obtain ⟨t, ht, hlength, hread, -⟩ := (write_pads hgreatest).1 _ rfl rfl
  obtain ⟨_, hwrite_zeros, -, -, rfl⟩ := (write_pads hzeros).1 _ rfl rfl
  obtain ⟨_, hwrite_blanks, -, -, rfl⟩ := (write_pads hblanks).1 _ rfl rfl
  obtain ⟨_, hwrite_narrow, -, -, rfl⟩ := (write_pads hnarrow).1 _ rfl rfl
  refine ⟨⟨t, ht, ?_, hread⟩, ?_, ?_, ?_, (write_pads hname).2 rfl⟩
  · rw [hlength]
    decide +kernel
  · rw [hwrite_zeros]
    exact congrArg Except.ok (by decide +kernel)
  · rw [hwrite_blanks]
    exact congrArg Except.ok (by decide +kernel)
  · rw [hwrite_narrow]
    exact congrArg Except.ok (by decide +kernel)

end Placeholder

end Datestamp
