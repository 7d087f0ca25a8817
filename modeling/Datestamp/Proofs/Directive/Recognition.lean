import Datestamp.Directive

/-!
# Recognising a directive

No token starts with another one, so at most one directive fits the head of a text and the search
for the longest has nothing to choose from: it finds a directive exactly when the directive's token
is there (`longest?_eq_some_iff`), and nothing exactly when no token is (`longest?_eq_none_iff`).
-/

namespace Datestamp.Directive

/-! ## Tokens are prefix-free -/

theorem eq_of_token_isPrefix_token {d e : Directive} (h : d.token <+: e.token) : d = e := by
  have all : ∀ d ∈ table, ∀ e ∈ table, d.token <+: e.token → d = e := by decide
  exact all d (mem_table d) e (mem_table e) h

/-- At most one directive fits a text. -/
theorem eq_of_token_isPrefix {d e : Directive} {t : Text} (hd : d.token <+: t)
    (he : e.token <+: t) : d = e := by
  rcases List.prefix_or_prefix_of_prefix hd he with h | h
  · exact eq_of_token_isPrefix_token h
  · exact (eq_of_token_isPrefix_token h).symm

/-- A token starts with a percent sign. -/
theorem not_token_isPrefix_cons {c : Char} (hc : c ≠ '%') (d : Directive) (t : Text) :
    ¬ d.token <+: c :: t := by
  intro h
  cases d <;> exact hc (List.cons_prefix_cons.mp h).1.symm

/-! ## The search finds what is there -/

theorem foldl_keepLonger_ne_none {ds : List Directive} {best : Option Directive}
    (h : best ≠ none ∨ ds ≠ []) : ds.foldl keepLonger best ≠ none := by
  induction ds generalizing best with
  | nil => simpa using h
  | cons d ds ih =>
      apply ih
      left
      unfold keepLonger
      split
      · simp
      · split <;> simp

theorem longestIn_ne_none {ds : List Directive} {t : Text} {d : Directive} (hd : d ∈ ds)
    (ht : d.token <+: t) : longestIn ds t ≠ none := by
  -- which one is kept does not matter here, only that one is
  apply foldl_keepLonger_ne_none
  right
  have hmem : d ∈ ds.filter fun d => d.token.isPrefixOf t :=
    List.mem_filter.mpr ⟨hd, List.isPrefixOf_iff_prefix.mpr ht⟩
  exact List.ne_nil_of_mem hmem

theorem longest?_eq_some_iff {t : Text} {d : Directive} :
    longest? t = some d ↔ d.token <+: t := by
  constructor
  · exact token_isPrefix_of_longest?
  · intro h
    cases hl : longest? t with
    | none => exact absurd hl (longestIn_ne_none (mem_table d) h)
    | some e => rw [eq_of_token_isPrefix (token_isPrefix_of_longest? hl) h]

theorem longest?_eq_none_iff {t : Text} :
    longest? t = none ↔ ∀ d : Directive, ¬ d.token <+: t := by
  rw [Option.eq_none_iff_forall_ne_some]
  constructor
  · intro h d hd
    exact h d (longest?_eq_some_iff.mpr hd)
  · intro h d hd
    exact h d (longest?_eq_some_iff.mp hd)

end Datestamp.Directive
