import Mathlib.Data.List.DropRight
import Datestamp.Text.Blank

/-!
# Trimmed texts

Trimming a text takes off the blanks around it and leaves a text that neither starts nor ends with
one. There is only one way to see a text as a trimmed one between blanks, so trimming gives back
whatever was surrounded with blanks (`trim_eq_iff`).
-/

namespace Datestamp.Text

/-- A text with blanks only. -/
def Blanks (t : Text) : Prop := ∀ c ∈ t, isBlank c = true

instance (t : Text) : Decidable (Blanks t) := List.decidableBAll (fun c => isBlank c = true) t

/-- A text that neither starts nor ends with a blank. -/
structure Trimmed (t : Text) : Prop where
  start : ∀ c ∈ t.head?, isBlank c = false
  finish : ∀ c ∈ t.getLast?, isBlank c = false

theorem trimEnd_eq_rdropWhile (t : Text) : trimEnd t = t.rdropWhile isBlank := rfl

/-! ## What trimming leaves -/

theorem start_dropWhile (t : Text) : ∀ c ∈ (t.dropWhile isBlank).head?, isBlank c = false := by
  intro c hc
  have h := List.head?_dropWhile_not isBlank t
  rwa [Option.mem_def.mp hc] at h

theorem trimmed_trim (t : Text) : Trimmed (trim t) where
  start := by
    intro c hc
    -- a text without the blanks at its end starts as it did before
    have hprefix : trim t <+: t.dropWhile isBlank := List.rdropWhile_prefix isBlank _
    obtain ⟨rest, hrest⟩ := hprefix
    apply start_dropWhile t c
    rw [← hrest, List.head?_append, Option.mem_def.mp hc]
    rfl
  finish := by
    intro c hc
    have hreverse : ∀ d ∈ ((t.dropWhile isBlank).reverse.dropWhile isBlank).head?, isBlank d = false :=
      start_dropWhile _
    apply hreverse c
    rwa [trim, trimEnd, List.getLast?_reverse] at hc

theorem exists_blanks (t : Text) :
    ∃ before after, Blanks before ∧ Blanks after ∧ t = before ++ trim t ++ after := by
  refine ⟨t.takeWhile isBlank, (t.dropWhile isBlank).rtakeWhile isBlank, ?_, ?_, ?_⟩
  · exact fun c hc => List.mem_takeWhile_imp hc
  · exact fun c hc => List.mem_rtakeWhile_imp hc
  · rw [trim, trimEnd_eq_rdropWhile, List.append_assoc, List.rdropWhile_append_rtakeWhile,
      List.takeWhile_append_dropWhile]

/-! ## What trimming takes off -/

theorem dropWhile_blanks_append {before t : Text} (hbefore : Blanks before)
    (ht : ∀ c ∈ t.head?, isBlank c = false) : (before ++ t).dropWhile isBlank = t := by
  rw [List.dropWhile_append_of_pos hbefore]
  cases t with
  | nil => rfl
  | cons c t =>
      apply List.dropWhile_cons_of_neg
      rw [ht c rfl]
      decide

theorem trimEnd_append_blanks {t after : Text} (hafter : Blanks after)
    (ht : ∀ c ∈ t.getLast?, isBlank c = false) : trimEnd (t ++ after) = t := by
  rw [trimEnd, List.reverse_append, dropWhile_blanks_append, List.reverse_reverse]
  · exact fun c hc => hafter c (List.mem_reverse.mp hc)
  · rwa [List.head?_reverse]

theorem trim_of_blanks {t : Text} (h : Blanks t) : trim t = [] := by
  rw [trim, List.dropWhile_eq_nil_iff.mpr h]
  rfl

theorem trim_append_blanks {before t after : Text} (hbefore : Blanks before) (ht : Trimmed t)
    (hafter : Blanks after) : trim (before ++ t ++ after) = t := by
  cases t with
  | nil =>
      apply trim_of_blanks
      rw [List.append_nil]
      exact List.forall_mem_append.mpr ⟨hbefore, hafter⟩
  | cons c t =>
      rw [trim, List.append_assoc, dropWhile_blanks_append hbefore,
        trimEnd_append_blanks hafter ht.finish]
      exact ht.start

/-- Trimming gives back the one trimmed text that stands between blanks. -/
theorem trim_eq_iff {t core : Text} : trim t = core ↔
    Trimmed core ∧ ∃ before after, Blanks before ∧ Blanks after ∧ t = before ++ core ++ after := by
  constructor
  · rintro rfl
    exact ⟨trimmed_trim t, exists_blanks t⟩
  · rintro ⟨hcore, before, after, hbefore, hafter, rfl⟩
    exact trim_append_blanks hbefore hcore hafter

theorem trim_eq_nil_iff {t : Text} : trim t = [] ↔ Blanks t := by
  constructor
  · intro h
    obtain ⟨before, after, hbefore, hafter, ht⟩ := exists_blanks t
    rw [h, List.append_nil] at ht
    rw [ht]
    exact List.forall_mem_append.mpr ⟨hbefore, hafter⟩
  · exact trim_of_blanks

/-- Trimming brings in no character. -/
theorem mem_of_mem_trim {t : Text} {c : Char} (h : c ∈ trim t) : c ∈ t := by
  obtain ⟨before, after, -, -, ht⟩ := exists_blanks t
  rw [ht]
  exact List.mem_append_left after (List.mem_append_right before h)

end Datestamp.Text
