import Datestamp.Placeholder

/-!
# The grammar of placeholders

A placeholder can be spelled in several ways: its width may be written with leading zeros once the
zero flag stands before it, and a width of zero may be left out. `Spells` is the grammar, and
`read?_eq_some_iff` says that the reader takes exactly a spelling from the head of a text and leaves
the rest alone.

The reader is deterministic because each part ends at a character that it cannot hold itself: the
name at its first closing bracket, the digits at the letter. The flag is the one exception. A zero
after the bracket is always read as the flag, so without the flag the digits start with another
digit.
-/

namespace Datestamp.Placeholder

/-! ## Spellings -/

/-- The placeholder with `digits` written for its width. -/
def spelling (p : Placeholder) (digits : Text) : Text :=
  '(' :: p.name ++ ')' :: (if p.zeroPad then ['0'] else []) ++ digits ++ [p.conversion.letter]

/-- The texts that spell a placeholder. -/
inductive Spells (p : Placeholder) : Text → Prop
  | mk {digits : Text}
      (name_closed : ')' ∉ p.name)
      (isDigit : ∀ c ∈ digits, c.isDigit = true)
      (no_flag : p.zeroPad = false → digits.head? ≠ some '0')
      (value : Decimal.value digits = p.width)
      (word : p.width ≤ maxWord) :
      Spells p (p.spelling digits)

theorem isDigit_letter (c : Conversion) : c.letter.isDigit = false := by
  cases c <;> rfl

/-- The digits of a number start with a zero for zero alone. -/
theorem head?_digits_ne_zero {n : Nat} (hn : n ≠ 0) : (Decimal.digits n).head? ≠ some '0' := by
  induction n using Decimal.digits.induct with
  | case1 n h =>
      have all : ∀ d ∈ List.range 10, d ≠ 0 → Decimal.digitChar d ≠ '0' := by decide
      rw [Decimal.digits, if_pos h, List.head?_cons]
      intro he
      exact all n (List.mem_range.2 h) hn (Option.some.inj he)
  | case2 n h ih =>
      have hq : n / 10 ≠ 0 := by omega
      rw [Decimal.digits, if_neg h, List.head?_append]
      cases hd : (Decimal.digits (n / 10)).head? with
      | none =>
          rw [List.head?_eq_none_iff, Decimal.digits] at hd
          split at hd <;> simp at hd
      | some c =>
          rw [hd] at ih
          exact ih hq

/-- The shortest form is a spelling. -/
theorem spells_print {p : Placeholder} (hname : ')' ∉ p.name) (hword : p.width ≤ maxWord) :
    p.Spells p.print := by
  by_cases hw : p.width = 0
  · have h : p.Spells (p.spelling []) :=
      .mk hname (by simp) (by simp) (by rw [hw]; rfl) hword
    simpa [print, spelling, hw] using h
  · have h : p.Spells (p.spelling (Decimal.digits p.width)) :=
      .mk hname (fun _ => Decimal.isDigit_of_mem_digits) (fun _ => head?_digits_ne_zero hw)
        (Decimal.value_digits _) hword
    simpa [print, spelling, hw] using h

/-! ## The reader takes every spelling -/

theorem readConversion?_letter (c : Conversion) (rest : Text) :
    readConversion? (c.letter :: rest) = some (c, rest) := by
  cases c <;> rfl

theorem readZeroFlag_of_head?_ne {t : Text} (h : t.head? ≠ some '0') :
    readZeroFlag t = (false, t) := by
  unfold readZeroFlag
  split
  · simp at h
  · rfl

/-- Digits that are followed by something else are taken whole. -/
theorem span_append {digits : Text} (h : ∀ c ∈ digits, c.isDigit = true) {c : Char}
    (hc : c.isDigit = false) (rest : Text) :
    Decimal.span (digits ++ c :: rest) = (digits, c :: rest) := by
  rw [Decimal.span, List.takeWhile_append_of_pos h, List.dropWhile_append_of_pos h]
  simp [hc]

theorem readZeroFlag_append {flag : Bool} {t : Text} (h : flag = false → t.head? ≠ some '0') :
    readZeroFlag ((if flag then ['0'] else []) ++ t) = (flag, t) := by
  cases flag with
  | true => rfl
  | false => exact readZeroFlag_of_head?_ne (h rfl)

theorem read?_append_of_spells {p : Placeholder} {s : Text} (h : p.Spells s) (rest : Text) :
    read? (s ++ rest) = some (p, rest) := by
  obtain ⟨name_closed, isDigit, no_flag, value, word⟩ := h
  rename_i digits
  have hcut : Text.cut? ')' (p.name ++ ')' ::
      ((if p.zeroPad then ['0'] else []) ++ (digits ++ p.conversion.letter :: rest))) =
      some (p.name, (if p.zeroPad then ['0'] else []) ++
        (digits ++ p.conversion.letter :: rest)) :=
    Text.cut?_append name_closed _
  have hhead : p.zeroPad = false →
      (digits ++ p.conversion.letter :: rest).head? ≠ some '0' := by
    intro hz
    cases digits with
    | nil => cases p.conversion <;> simp [Conversion.letter]
    | cons d ds => exact no_flag hz
  have hspec : readSpec? p.name ((if p.zeroPad then ['0'] else []) ++
      (digits ++ p.conversion.letter :: rest)) = some (p, rest) := by
    rw [readSpec?, readZeroFlag_append hhead]
    simp only [span_append isDigit (isDigit_letter _), value, if_pos word,
      readConversion?_letter, Option.map_some]
  have htext : p.spelling digits ++ rest = '(' :: (p.name ++ ')' ::
      ((if p.zeroPad then ['0'] else []) ++ (digits ++ p.conversion.letter :: rest))) := by
    simp [spelling]
  rw [htext, read?, hcut]
  exact hspec

/-! ## The reader takes nothing else -/

theorem eq_letter_of_readConversion? {t rest : Text} {c : Conversion}
    (h : readConversion? t = some (c, rest)) : t = c.letter :: rest := by
  unfold readConversion? at h
  split at h
  · obtain ⟨rfl, rfl⟩ := Prod.mk.inj (Option.some.inj h)
    rfl
  · obtain ⟨rfl, rfl⟩ := Prod.mk.inj (Option.some.inj h)
    rfl
  · simp at h

/-- What the flag reader leaves starts with a zero only if the flag was there. -/
theorem eq_append_of_readZeroFlag (t : Text) :
    t = (if (readZeroFlag t).1 then ['0'] else []) ++ (readZeroFlag t).2 ∧
      ((readZeroFlag t).1 = false → (readZeroFlag t).2.head? ≠ some '0') := by
  by_cases h : t.head? = some '0'
  · obtain ⟨t, rfl⟩ := List.head?_eq_some_iff.mp h
    exact ⟨rfl, by simp [readZeroFlag]⟩
  · rw [readZeroFlag_of_head?_ne h]
    exact ⟨rfl, fun _ => h⟩

/-- A text is its leading digits and what follows them. -/
theorem eq_append_of_span (t : Text) :
    t = (Decimal.span t).1 ++ (Decimal.span t).2 ∧
      ∀ c ∈ (Decimal.span t).1, c.isDigit = true := by
  constructor
  · exact (List.takeWhile_append_dropWhile).symm
  · exact List.all_eq_true.mp List.all_takeWhile

theorem spells_of_read? {t rest : Text} {p : Placeholder} (h : read? t = some (p, rest)) :
    ∃ s, p.Spells s ∧ t = s ++ rest := by
  unfold read? at h
  split at h
  case h_2 => simp at h
  case h_1 body =>
    obtain ⟨⟨name, spec⟩, hcut, hspec⟩ := Option.bind_eq_some_iff.mp h
    obtain ⟨rfl, hname⟩ := Text.eq_append_of_cut? hcut
    simp only [readSpec?, Option.map_eq_some_iff, Option.ite_none_right_eq_some,
      Prod.mk.injEq] at hspec
    obtain ⟨hword, ⟨c, rest⟩, hc, rfl, rfl⟩ := hspec
    obtain ⟨hflag, hhead⟩ := eq_append_of_readZeroFlag spec
    obtain ⟨hspan, hdigits⟩ := eq_append_of_span (readZeroFlag spec).2
    rw [eq_letter_of_readConversion? hc] at hspan
    -- the digits start as the text after the flag does
    have hfirst : (readZeroFlag spec).1 = false →
        (Decimal.span (readZeroFlag spec).2).1.head? ≠ some '0' := by
      intro hz he
      rw [hspan, List.head?_append, he] at hhead
      exact hhead hz rfl
    refine ⟨_, .mk hname hdigits hfirst rfl hword, ?_⟩
    calc '(' :: (name ++ ')' :: spec)
      _ = '(' :: (name ++ ')' :: ((if (readZeroFlag spec).1 then ['0'] else []) ++
            ((Decimal.span (readZeroFlag spec).2).1 ++ c.letter :: rest))) := by
          rw [← hspan, ← hflag]
      _ = _ := by simp [spelling]

theorem read?_eq_some_iff {t rest : Text} {p : Placeholder} :
    read? t = some (p, rest) ↔ ∃ s, p.Spells s ∧ t = s ++ rest := by
  constructor
  · exact spells_of_read?
  · rintro ⟨s, hs, rfl⟩
    exact read?_append_of_spells hs rest

theorem read?_eq_none_iff {t : Text} :
    read? t = none ↔ ∀ (p : Placeholder) (s rest : Text), p.Spells s → t ≠ s ++ rest := by
  rw [Option.eq_none_iff_forall_ne_some]
  constructor
  · rintro h p s rest hs rfl
    exact h _ (read?_append_of_spells hs rest)
  · rintro h ⟨p, rest⟩ hread
    rcases read?_eq_some_iff.mp hread with ⟨s, hs, ht⟩
    exact h p s rest hs ht

end Datestamp.Placeholder
