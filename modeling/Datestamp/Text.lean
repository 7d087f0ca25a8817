/-!
# Texts

A text is the list of its characters. Everything that reads or writes characters works on texts;
strings appear only where a program meets its surroundings. This file holds the three ways in
which the readers take a text apart: by a known lead, at the first separator, at every separator.
-/

namespace Datestamp

/-- A text is the list of its Unicode characters. -/
abbrev Text := List Char

namespace Text

/-- What follows `lead` in `t`, if `t` starts with `lead`. -/
def strip? : (lead t : Text) → Option Text
  | [], t => some t
  | _ :: _, [] => none
  | a :: lead, c :: t => if a = c then strip? lead t else none

/-- The parts of `t` before and after its first `sep`, if it has one. -/
def cut? (sep : Char) : Text → Option (Text × Text)
  | [] => none
  | c :: t => if c = sep then some ([], t) else (cut? sep t).map fun (a, b) => (c :: a, b)

/-- The parts of a text between its separators: one more than there are separators. -/
def split (sep : Char) : Text → List Text
  | [] => [[]]
  | c :: t =>
    if c = sep then [] :: split sep t
    else match split sep t with
      | [] => [[c]]
      | part :: parts => (c :: part) :: parts

/-! ## A lead is stripped exactly from the texts that start with it -/

@[simp] theorem strip?_append (lead t : Text) : strip? lead (lead ++ t) = some t := by
  induction lead with
  | nil => rfl
  | cons a lead ih => simp [strip?, ih]

theorem strip?_eq_some_iff {lead t rest : Text} : strip? lead t = some rest ↔ t = lead ++ rest := by
  refine ⟨fun h => ?_, fun h => h ▸ strip?_append lead rest⟩
  induction lead generalizing t with
  | nil => simpa [strip?] using h
  | cons a lead ih =>
    cases t with
    | nil => simp [strip?] at h
    | cons c t =>
      by_cases hc : a = c
      · simp only [strip?, hc, if_true] at h
        simp [hc, ih h]
      · simp [strip?, hc] at h

theorem strip?_eq_none_iff {lead t : Text} : strip? lead t = none ↔ ¬ lead <+: t := by
  rw [Option.eq_none_iff_forall_ne_some]
  constructor
  · rintro h ⟨rest, rfl⟩
    exact h rest (strip?_append lead rest)
  · intro h rest hrest
    exact h ⟨rest, (strip?_eq_some_iff.mp hrest).symm⟩

/-! ## A cut removes the first separator and nothing else -/

theorem cut?_append {sep : Char} {a : Text} (ha : sep ∉ a) (b : Text) :
    cut? sep (a ++ sep :: b) = some (a, b) := by
  induction a with
  | nil => simp [cut?]
  | cons c a ih =>
    simp only [List.mem_cons, not_or] at ha
    simp [cut?, Ne.symm ha.1, ih ha.2]

theorem eq_append_of_cut? {sep : Char} {t a b : Text} (h : cut? sep t = some (a, b)) :
    t = a ++ sep :: b ∧ sep ∉ a := by
  induction t generalizing a with
  | nil => simp [cut?] at h
  | cons c t ih =>
    by_cases hc : c = sep
    · simp only [cut?, hc, if_true, Option.some.injEq, Prod.mk.injEq] at h
      simp [← h.1, ← h.2, hc]
    · simp only [cut?, hc, if_false, Option.map_eq_some_iff] at h
      obtain ⟨⟨a', b'⟩, h', e⟩ := h
      simp only [Prod.mk.injEq] at e
      obtain ⟨rfl, rfl⟩ := e
      obtain ⟨rfl, hn⟩ := ih h'
      simp [hn, Ne.symm hc]

theorem cut?_eq_none_iff {sep : Char} {t : Text} : cut? sep t = none ↔ sep ∉ t := by
  constructor
  · intro h hmem
    obtain ⟨a, b, rfl, ha⟩ := List.eq_append_cons_of_mem hmem
    rw [cut?_append ha] at h
    cases h
  · intro hmem
    cases h : cut? sep t with
    | none => rfl
    | some parts =>
      obtain ⟨rfl, -⟩ := eq_append_of_cut? h
      simp at hmem

/-! ## Joining undoes a split -/

/-- The parts are those of the library, so that its lemmas on splitting and joining apply. -/
theorem split_eq_splitOn (sep : Char) (t : Text) : split sep t = t.splitOn sep := by
  induction t with
  | nil => rfl
  | cons c t ih =>
    rw [split, List.splitOn_cons_eq_if_modifyHead, ih]
    by_cases hc : c = sep
    · simp [hc]
    · cases h : t.splitOn sep with
      | nil => exact absurd h (List.splitOn_ne_nil sep t)
      | cons part parts => simp [hc]

theorem split_append_cons (sep : Char) (a b : Text) :
    split sep (a ++ sep :: b) = split sep a ++ split sep b := by
  rw [split_eq_splitOn, split_eq_splitOn, split_eq_splitOn, List.splitOn_append_cons_self]

theorem split_of_not_mem {sep : Char} {t : Text} (h : sep ∉ t) : split sep t = [t] := by
  rw [split_eq_splitOn, List.splitOn_eq_singleton h]

theorem intercalate_split (sep : Char) (t : Text) : [sep].intercalate (split sep t) = t := by
  rw [split_eq_splitOn, List.intercalate_splitOn]

/-- No part holds a separator. -/
theorem not_mem_of_mem_split {sep : Char} {t part : Text} (h : part ∈ split sep t) :
    sep ∉ part := by
  induction t generalizing part with
  | nil =>
    obtain rfl := List.mem_singleton.mp h
    exact List.not_mem_nil
  | cons c t ih =>
    rw [split] at h
    by_cases hc : c = sep
    · rw [if_pos hc] at h
      rcases List.mem_cons.mp h with rfl | h
      · exact List.not_mem_nil
      · exact ih h
    · rw [if_neg hc] at h
      -- the character goes to the part at the head
      have hhead : ∀ first, sep ∉ first → sep ∉ c :: first := fun first hfirst =>
        List.not_mem_cons_of_ne_of_not_mem (Ne.symm hc) hfirst
      cases hsplit : split sep t with
      | nil =>
        rw [hsplit] at h
        obtain rfl := List.mem_singleton.mp h
        exact hhead [] List.not_mem_nil
      | cons first parts =>
        rw [hsplit] at h ih
        rcases List.mem_cons.mp h with rfl | h
        · exact hhead first (ih List.mem_cons_self)
        · exact ih (List.mem_cons_of_mem first h)

end Text

end Datestamp
