import Datestamp.Proofs.Format.Meaning
import Datestamp.Proofs.Format.Steps

/-!
# Quoting a text

Any text can be printed as it stands. Its percent signs doubled, it is a format that means the text
and compiles to itself, so it does as a template as well (`doubled_percents_quote`). Both readers
take the percent signs in pairs from the left: a pair is never the start of a longer directive, and
what stands between two pairs has no percent sign at all. A text in which no directive occurs needs
no quoting.
-/

namespace Datestamp

namespace Format

/-! ## The template, one piece at a time -/

theorem compile_nil : compile [] = [] := by
  rw [compile, tokens, pieces_nil]
  rfl

theorem compile_token_append (d : Directive) (t : Text) :
    compile (d.token ++ t) = d.template ++ compile t := by
  rw [compile, tokens, pieces_token_append, join, List.flatMap_cons]
  rfl

theorem compile_char {c : Char} {t : Text} (h : ∀ d : Directive, ¬ d.token <+: c :: t) :
    compile (c :: t) = doublePercents [c] ++ compile t := by
  rw [compile, tokens, pieces_char h, join, flatMap_consChar doublePercents_cons]
  rfl

/-! ## Doubled percent signs -/

/-- A text with its percent signs doubled compiles to itself. -/
theorem compile_doublePercents (t : Text) : compile (doublePercents t) = doublePercents t := by
  induction t with
  | nil => exact compile_nil
  | cons c t ih =>
      by_cases hc : c = '%'
      · subst hc
        show compile (Directive.percent.token ++ doublePercents t) = _
        rw [compile_token_append, ih]
        rfl
      · rw [doublePercents_char hc, compile_char fun d => d.not_token_isPrefix_cons hc _, ih,
          doublePercents_char hc]
        rfl

theorem render_doublePercents (t : Text) (fs : Fields) :
    Template.render (doublePercents t) fs = .ok t :=
  Template.render_eq_ok (readsAs_doublePercents t)

/-! ## Texts without a directive -/

/-- No directive occurs in a text if none is recognised at any of its places. -/
theorem not_token_isInfix {t : Text} (h : ∀ n ≤ t.length, Directive.longest? (t.drop n) = none)
    (d : Directive) : ¬ d.token <:+: t := by
  rintro ⟨before, after, rfl⟩
  have hplace : before.length ≤ (before ++ d.token ++ after).length := by
    rw [List.append_assoc, List.length_append]
    exact Nat.le_add_right _ _
  have hnone := h before.length hplace
  rw [List.append_assoc, List.drop_left] at hnone
  exact Directive.longest?_eq_none_iff.mp hnone d (List.prefix_append _ _)

theorem compile_of_no_token {t : Text} (h : ∀ d : Directive, ¬ d.token <:+: t) :
    compile t = doublePercents t := by
  induction t with
  | nil => exact compile_nil
  | cons c t ih =>
      have hhead : ∀ d : Directive, ¬ d.token <+: c :: t := fun d hd => h d hd.isInfix
      have htail : ∀ d : Directive, ¬ d.token <:+: t := fun d hd => h d (List.infix_cons hd)
      rw [compile_char hhead, ih htail, ← doublePercents_cons]

end Format

/-- **Doubled percent signs quote a text.** With its percent signs doubled a text compiles to
itself, and as a format and as a template alike it is shown as it was, whatever the stamp. A text in
which no directive occurs is shown as it is. -/
theorem doubled_percents_quote (t : Text) :
    Format.compile (Format.doublePercents t) = Format.doublePercents t ∧
      (∀ time zone fs, Fields.of time zone = .ok fs →
        stampLine (Format.doublePercents t) time zone = .ok t ∧
          Template.render (Format.doublePercents t) fs = .ok t) ∧
      ((∀ d : Directive, ¬ d.token <:+: t) →
        ∀ time zone fs, Fields.of time zone = .ok fs → stampLine t time zone = .ok t) := by
  refine ⟨Format.compile_doublePercents t, ?_, ?_⟩
  · intro time zone fs hfs
    have hrender := Format.render_doublePercents t fs
    refine ⟨bind_eq_ok hfs ?_, hrender⟩
    rw [Format.compile_doublePercents]
    exact hrender
  · intro hplain time zone fs hfs
    refine bind_eq_ok hfs ?_
    rw [Format.compile_of_no_token hplain]
    exact Format.render_doublePercents t fs

/-- A text full of directives and the text of a placeholder, and one with a stray percent sign. -/
theorem doubled_percents_quote_in_winter :
    let time : LocalTime := ⟨2018, 1, 2, 9, 42, 20, 1, 2, some "CET".toList, .inactive, 3600⟩
    let zone : Zone := .fixed 3600 "CET".toList
    (∃ fs, Fields.of time zone = .ok fs) ∧
      stampLine "%%%%Y%%%%z%%(tm_year)04d".toList time zone =
        .ok "%%Y%%z%(tm_year)04d".toList ∧
      (∀ d : Directive, ¬ d.token <:+: "100% (tm_year)04d %!".toList) ∧
      stampLine "100% (tm_year)04d %!".toList time zone = .ok "100% (tm_year)04d %!".toList := by
  intro time zone
  have hfs : Fields.of time zone = .ok ⟨time, "CET".toList, .ofSeconds 3600, .zero,
      .ofSeconds 3600⟩ := rfl
  have hplain : ∀ d : Directive, ¬ d.token <:+: "100% (tm_year)04d %!".toList :=
    Format.not_token_isInfix (by decide)
  obtain ⟨-, hquoted, -⟩ := doubled_percents_quote "%%Y%%z%(tm_year)04d".toList
  obtain ⟨-, -, hshown⟩ := doubled_percents_quote "100% (tm_year)04d %!".toList
  exact ⟨⟨_, hfs⟩, (hquoted time zone _ hfs).1, hplain, hshown hplain time zone _ hfs⟩

end Datestamp
