import Datestamp.Proofs.Placeholder.Spelling

/-!
# The parts of a placeholder

A text that starts with a placeholder falls into five parts: the name between brackets, the zero
flag, the digits of the width, the letter, and the rest. `Parts` says what each of them may hold and
mentions no reader. The reader succeeds on exactly the texts that fall into such parts, and gives
back what they stand for; and no text falls into parts in two ways (`reader_takes_parts`).

That the parts are unique need not be shown part by part. The reader tells name, flag, letter and
rest apart from the text alone, and with these four in place the digits are what is left.
-/

namespace Datestamp.Placeholder

/-- The parts of a text that starts with a placeholder. -/
@[ext]
structure Parts where
  name : Text
  flag : Text
  digits : Text
  letter : Char
  rest : Text
  name_closed : ')' ∉ name
  flag_cases : flag = [] ∨ flag = ['0']
  isDigit : ∀ c ∈ digits, c.isDigit = true
  /-- A zero at the head is the flag. -/
  no_flag : flag = [] → digits.head? ≠ some '0'
  word : Decimal.value digits < UInt64.size
  letter_cases : letter = 'd' ∨ letter = 's'

namespace Parts

/-- The parts put together. -/
def text (s : Parts) : Text :=
  '(' :: s.name ++ ')' :: s.flag ++ s.digits ++ s.letter :: s.rest

/-- What the parts stand for. No digits stand for a width of zero. -/
def placeholder (s : Parts) : Placeholder where
  name := s.name
  zeroPad := s.flag = ['0']
  width := Decimal.value s.digits
  conversion := if s.letter = 'd' then .number else .text

/-! ## Parts are a spelling and a rest -/

theorem flag_placeholder (s : Parts) : (if s.placeholder.zeroPad then ['0'] else []) = s.flag := by
  rcases s.flag_cases with h | h
  · simp [placeholder, h]
  · simp [placeholder, h]

theorem letter_placeholder (s : Parts) : s.placeholder.conversion.letter = s.letter := by
  rcases s.letter_cases with h | h
  · simp [placeholder, h, Conversion.letter]
  · simp [placeholder, h, Conversion.letter]

theorem text_eq (s : Parts) : s.text = s.placeholder.spelling s.digits ++ s.rest := by
  rw [spelling, s.flag_placeholder, s.letter_placeholder]
  simp [text, placeholder]

theorem spells (s : Parts) : s.placeholder.Spells (s.placeholder.spelling s.digits) := by
  refine .mk s.name_closed s.isDigit ?_ rfl ?_
  · intro hz
    have hflag := s.flag_placeholder
    rw [hz] at hflag
    exact s.no_flag hflag.symm
  · exact Nat.le_of_lt_succ s.word

theorem read?_text (s : Parts) : read? s.text = some (s.placeholder, s.rest) := by
  rw [s.text_eq]
  exact read?_append_of_spells s.spells s.rest

/-- Every spelling falls into parts. -/
theorem exists_text_eq {p : Placeholder} {t : Text} (h : p.Spells t) (rest : Text) :
    ∃ s : Parts, s.text = t ++ rest := by
  obtain ⟨name_closed, isDigit, no_flag, value, word⟩ := h
  rename_i digits
  refine ⟨⟨p.name, if p.zeroPad then ['0'] else [], digits, p.conversion.letter, rest,
    name_closed, ?flag_cases, isDigit, ?no_flag, ?word, ?letter_cases⟩, ?text_eq⟩
  case flag_cases => cases p.zeroPad <;> simp
  case no_flag =>
    intro hflag
    apply no_flag
    cases hz : p.zeroPad with
    | false => rfl
    | true => simp [hz] at hflag
  case word =>
    rw [value]
    exact Nat.lt_succ_of_le word
  case letter_cases => cases p.conversion <;> simp [Conversion.letter]
  case text_eq => simp [text, spelling]

/-! ## No text has parts in two ways -/

theorem text_inj {s s' : Parts} (h : s.text = s'.text) : s = s' := by
  have hread : (s.placeholder, s.rest) = (s'.placeholder, s'.rest) := by
    apply Option.some.inj
    rw [← read?_text, ← read?_text, h]
  obtain ⟨hplaceholder, hrest⟩ := Prod.mk.inj hread
  have hname : s.name = s'.name := congrArg Placeholder.name hplaceholder
  have hflag : s.flag = s'.flag := by
    rw [← s.flag_placeholder, ← s'.flag_placeholder, hplaceholder]
  have hletter : s.letter = s'.letter := by
    rw [← s.letter_placeholder, ← s'.letter_placeholder, hplaceholder]
  have hdigits : s.digits = s'.digits := by
    unfold text at h
    rw [hname, hflag, hletter, hrest] at h
    exact List.append_cancel_left (List.append_cancel_right h)
  exact Parts.ext hname hflag hdigits hletter hrest

end Parts

/-- **The reader takes exactly the placeholders.** It succeeds on a text exactly if the text falls
into parts, and then gives the placeholder that they stand for and the rest; no text falls into parts
in two ways. So a placeholder in its shortest form is read back from the head of any text. -/
theorem reader_takes_parts :
    (∀ t, (∃ result, read? t = some result) ↔ ∃ s : Parts, s.text = t) ∧
      (∀ s : Parts, read? s.text = some (s.placeholder, s.rest)) ∧
      (∀ s s' : Parts, s.text = s'.text → s = s') ∧
      ∀ (p : Placeholder) (rest : Text), ')' ∉ p.name → p.width < UInt64.size →
        read? (p.print ++ rest) = some (p, rest) := by
  refine ⟨?_, Parts.read?_text, fun _ _ => Parts.text_inj, ?_⟩
  · intro t
    constructor
    · rintro ⟨⟨p, rest⟩, hread⟩
      obtain ⟨spelt, hspelt, rfl⟩ := read?_eq_some_iff.mp hread
      exact Parts.exists_text_eq hspelt rest
    · rintro ⟨s, rfl⟩
      exact ⟨_, s.read?_text⟩
  · intro p rest hname hword
    exact read?_append_of_spells (spells_print hname (Nat.le_of_lt_succ hword)) rest

/-- A name with a bracket in it, and a width with zeros behind the flag: as parts, as it is read, and
read back from its shortest form. -/
theorem reader_takes_parts_with_zeros :
    let p : Placeholder := ⟨"%(a".toList, true, 7, .text⟩
    (∃ s : Parts, s.text = "(%(a)0007s%)".toList) ∧
      read? "(%(a)0007s%)".toList = some (p, "%)".toList) ∧
      p.print = "(%(a)07s".toList ∧ read? (p.print ++ "%)".toList) = some (p, "%)".toList) := by
  intro p
  obtain ⟨-, hread, -, hprint⟩ := reader_takes_parts
  let s : Parts := ⟨"%(a".toList, ['0'], "007".toList, 's', "%)".toList, by decide, .inr rfl,
    List.all_eq_true.mp rfl, by decide, by decide, .inr rfl⟩
  exact ⟨⟨s, rfl⟩, hread s, by decide +kernel, hprint p _ (by decide) (by decide)⟩

end Datestamp.Placeholder
