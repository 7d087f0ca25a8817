import Datestamp.Format
import Datestamp.Proofs.Directive.Recognition

/-!
# The reading of a format

`Munch` says how a format is read from left to right without naming a search: wherever a directive
starts, the one with the longest token is taken, and elsewhere one character. Every format has
exactly one such reading, its pieces (`munch_iff`).
-/

namespace Datestamp.Format

/-- `Munch format ps`: reading `format` from left to right gives the pieces `ps`, and a directive is
taken wherever one starts, the longest that fits. -/
inductive Munch : Text → List Piece → Prop
  | nil : Munch [] []
  | directive {d : Directive} {t : Text} {ps : List Piece}
      (longest : ∀ e : Directive, e.token <+: d.token ++ t → e.token.length ≤ d.token.length)
      (h : Munch t ps) : Munch (d.token ++ t) (.directive d :: ps)
  | char {c : Char} {t : Text} {ps : List Piece}
      (no_directive : ∀ e : Directive, ¬ e.token <+: c :: t) (h : Munch t ps) :
      Munch (c :: t) (.char c :: ps)

/-! ## The pieces, one at a time -/

theorem pieces_nil : pieces [] = [] := by
  rw [pieces]

theorem pieces_token_append (d : Directive) (t : Text) :
    pieces (d.token ++ t) = .directive d :: pieces t := by
  have hl : Directive.longest? (d.token ++ t) = some d :=
    Directive.longest?_eq_some_iff.mpr (List.prefix_append _ _)
  have hdrop : (d.token ++ t).drop d.token.length = t := List.drop_left
  -- the reading unfolds only on a text whose first character is in sight
  cases ht : d.token ++ t with
  | nil =>
      have hpos := d.token_length_pos
      rw [(List.append_eq_nil_iff.mp ht).1] at hpos
      exact absurd hpos (by simp)
  | cons c rest =>
      rw [ht] at hl hdrop
      rw [pieces, hl]
      simp only [hdrop]

theorem pieces_char {c : Char} {t : Text} (h : ∀ e : Directive, ¬ e.token <+: c :: t) :
    pieces (c :: t) = .char c :: pieces t := by
  rw [pieces, Directive.longest?_eq_none_iff.mpr h]

theorem pieces_char_of_ne {c : Char} (hc : c ≠ '%') (t : Text) :
    pieces (c :: t) = .char c :: pieces t :=
  pieces_char fun d => d.not_token_isPrefix_cons hc t

/-- What is made of a run character by character: one in front of tokens adds its own part, whether
it starts a run or not. -/
theorem flatMap_consChar {f : Token → Text}
    (hrun : ∀ c run, f (.literal (c :: run)) = f (.literal [c]) ++ f (.literal run)) (c : Char)
    (tokens : List Token) :
    (consChar c tokens).flatMap f = f (.literal [c]) ++ tokens.flatMap f := by
  unfold consChar
  split
  · rw [List.flatMap_cons, List.flatMap_cons, hrun, List.append_assoc]
  · exact List.flatMap_cons

/-! ## They are the only reading -/

theorem Munch.token_append {t : Text} {ps : List Piece} (h : Munch t ps) (d : Directive) :
    Munch (d.token ++ t) (.directive d :: ps) := by
  -- no other token fits, so there is none longer
  refine .directive ?_ h
  intro e he
  obtain rfl := Directive.eq_of_token_isPrefix he (List.prefix_append _ _)
  exact Nat.le_refl _

theorem munch_pieces (format : Text) : Munch format (pieces format) := by
  induction format using pieces.induct with
  | case1 =>
      rw [pieces_nil]
      exact .nil
  | case2 c rest d hl _ ih =>
      obtain ⟨t, ht⟩ := Directive.token_isPrefix_of_longest? hl
      rw [← ht, List.drop_left] at ih
      rw [← ht, pieces_token_append]
      exact ih.token_append d
  | case3 c rest hl ih =>
      have hno := Directive.longest?_eq_none_iff.mp hl
      rw [pieces_char hno]
      exact .char hno ih

theorem munch_iff {format : Text} {ps : List Piece} :
    Munch format ps ↔ ps = pieces format := by
  constructor
  · intro h
    induction h with
    | nil => exact pieces_nil.symm
    | directive _ _ ih => rw [pieces_token_append, ih]
    | char no_directive _ ih => rw [pieces_char no_directive, ih]
  · rintro rfl
    exact munch_pieces format

/-- Induction on a format by its reading: a directive or a character that starts none in front. -/
@[elab_as_elim]
theorem reading_induction {motive : Text → Prop} (nil : motive [])
    (directive : ∀ (d : Directive) (t : Text), motive t → motive (d.token ++ t))
    (char : ∀ (c : Char) (t : Text), (∀ d : Directive, ¬ d.token <+: c :: t) → motive t →
      motive (c :: t)) (format : Text) : motive format := by
  obtain ⟨ps, hps⟩ : ∃ ps, Munch format ps := ⟨_, munch_pieces format⟩
  induction hps with
  | nil => exact nil
  | directive _ _ ih => exact directive _ _ ih
  | char no_directive _ ih => exact char _ _ no_directive ih

end Datestamp.Format
