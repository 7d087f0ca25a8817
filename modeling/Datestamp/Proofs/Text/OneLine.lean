import Datestamp.Decimal
import Datestamp.Text.Quoted

/-!
# Texts of one line

A text takes one line when it holds no control character and neither of the two separators for lines
and paragraphs. Numerals do, and so does every text between quotes: whatever has no form of its own
is replaced by an escape (`OneLine.quote`). Lines that each end in a line feed can be told apart
again by splitting there (`split_lines`).
-/

namespace Datestamp

/-! ## Breaking characters -/

namespace CharClass

theorem isInside_cons_of_lt {change n : Nat} (h : n < change) (changes : List Nat) :
    isInside (change :: changes) n = false := if_pos h

theorem isInside_cons_of_le {change n : Nat} (h : change ≤ n) (changes : List Nat) :
    isInside (change :: changes) n = !isInside changes n := if_neg (Nat.not_lt.mpr h)

end CharClass

namespace Text

open CharClass

/-- The characters that end a line or control how it is shown: the general category `Cc`, with the
line feed in it, and the separators of lines and of paragraphs. -/
def IsBreaking (c : Char) : Prop :=
  c.toNat < 0x20 ∨ (0x7F ≤ c.toNat ∧ c.toNat < 0xA0) ∨ c.toNat = 0x2028 ∨ c.toNat = 0x2029

instance (c : Char) : Decidable (IsBreaking c) := inferInstanceAs (Decidable (_ ∨ _))

theorem unprintable_changes :
    ∃ changes, unprintable.changes = 0x0 :: 0x20 :: 0x7F :: 0xA1 :: changes := ⟨_, rfl⟩

/-- No breaking character is printable. -/
theorem unprintable_of_isBreaking {c : Char} (h : IsBreaking c) : unprintable.contains c = true := by
  obtain ⟨changes, hchanges⟩ := unprintable_changes
  rcases h with hc0 | ⟨hfrom, hto⟩ | hline | hparagraph
  · rw [contains, hchanges, isInside_cons_of_le (Nat.zero_le _), isInside_cons_of_lt hc0]
    rfl
  · rw [contains, hchanges, isInside_cons_of_le (Nat.zero_le _), isInside_cons_of_le (by omega),
      isInside_cons_of_le hfrom, isInside_cons_of_lt (by omega)]
    rfl
  · rw [contains, hline]
    decide +kernel
  · rw [contains, hparagraph]
    decide +kernel

/-- A character that is shown as itself does not break a line. -/
theorem not_isBreaking_of_isShown {c : Char} (h : isShown c = true) : ¬ IsBreaking c := by
  intro hbreaking
  rw [isShown, unprintable_of_isBreaking hbreaking] at h
  cases h

theorem not_isBreaking_of_isDigit {c : Char} (h : c.isDigit = true) : ¬ IsBreaking c := by
  rw [Char.isDigit, Bool.and_eq_true, decide_eq_true_eq, decide_eq_true_eq] at h
  obtain ⟨hfrom, hto⟩ := h
  have hfrom : 48 ≤ c.toNat := hfrom
  have hto : c.toNat ≤ 57 := hto
  unfold IsBreaking
  omega

/-! ## Texts without them -/

/-- A text without breaking characters. -/
def OneLine (t : Text) : Prop := ∀ c ∈ t, ¬ IsBreaking c

instance (t : Text) : Decidable (OneLine t) := List.decidableBAll (fun c => ¬ IsBreaking c) t

@[simp] theorem oneLine_nil : OneLine [] := nofun

@[simp] theorem oneLine_cons {c : Char} {t : Text} :
    OneLine (c :: t) ↔ ¬ IsBreaking c ∧ OneLine t := List.forall_mem_cons

@[simp] theorem oneLine_append {s t : Text} : OneLine (s ++ t) ↔ OneLine s ∧ OneLine t :=
  List.forall_mem_append

theorem OneLine.flatMap {α : Type} {f : α → Text} {xs : List α} (h : ∀ x ∈ xs, OneLine (f x)) :
    OneLine (xs.flatMap f) := by
  intro c hc
  obtain ⟨x, hx, hc⟩ := List.mem_flatMap.mp hc
  exact h x hx c hc

theorem OneLine.newline_not_mem {t : Text} (h : OneLine t) : '\n' ∉ t :=
  fun hmem => h '\n' hmem (by decide)

theorem OneLine.numeral (n : Int) : OneLine (Decimal.numeral n) := by
  have hdigits : OneLine (Decimal.digits n.natAbs) :=
    fun c hc => not_isBreaking_of_isDigit (Decimal.isDigit_of_mem_digits hc)
  unfold Decimal.numeral
  split
  · exact oneLine_cons.mpr ⟨by decide, hdigits⟩
  · exact hdigits

/-! ## Quoted texts -/

theorem not_isBreaking_hexChar {d : Nat} (h : d < 16) : ¬ IsBreaking (hexChar d) := by
  have all : ∀ e ∈ List.range 16, ¬ IsBreaking (hexChar e) := by decide
  exact all d (List.mem_range.2 h)

theorem OneLine.hexDigits (n : Nat) : OneLine (hexDigits n) := by
  induction n using hexDigits.induct with
  | case1 n h =>
      rw [Text.hexDigits, if_pos h]
      exact oneLine_cons.mpr ⟨not_isBreaking_hexChar h, oneLine_nil⟩
  | case2 n h ih =>
      rw [Text.hexDigits, if_neg h, oneLine_append, oneLine_cons]
      exact ⟨ih, not_isBreaking_hexChar (Nat.mod_lt n (by decide)), oneLine_nil⟩

/-- A character between quotes has a short escape, is shown as itself, or gives its code point. -/
theorem OneLine.escape (c : Char) : OneLine (escape c) := by
  unfold Text.escape
  -- the six short escapes
  iterate 6
    split
    case isTrue => decide
  split
  case isTrue hshown => exact oneLine_cons.mpr ⟨not_isBreaking_of_isShown hshown, oneLine_nil⟩
  case isFalse =>
    rw [oneLine_append, oneLine_append]
    exact ⟨⟨by decide, .hexDigits c.toNat⟩, by decide⟩

theorem OneLine.quote (t : Text) : OneLine (quote t) := by
  have hinside : OneLine (t.flatMap Text.escape) := .flatMap fun c _ => .escape c
  rw [Text.quote, oneLine_append, oneLine_cons]
  exact ⟨⟨by decide, hinside⟩, by decide⟩

/-! ## Lines one after another -/

/-- Lines that each end in a line feed, one after another: the last part is what follows them. -/
theorem split_lines {lines : List Text} (h : ∀ line ∈ lines, OneLine line) :
    split '\n' (lines.flatMap (· ++ ['\n'])) = lines ++ [[]] := by
  induction lines with
  | nil => rfl
  | cons line lines ih =>
      have hline := (h line List.mem_cons_self).newline_not_mem
      have hrest := ih fun l hl => h l (List.mem_cons_of_mem _ hl)
      rw [List.flatMap_cons, List.append_assoc, List.singleton_append, split_append_cons,
        split_of_not_mem hline, hrest]
      rfl

end Text

end Datestamp
