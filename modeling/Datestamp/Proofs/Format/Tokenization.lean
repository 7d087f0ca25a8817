import Datestamp.Proofs.Format.Pieces

/-!
# The tokens of a format

`Tokenizes` says what makes a list of tokens that of a format, and names no scanner: the tokens put
together are the format, runs are neither empty nor side by side, and no directive starts inside a
run. Exactly one list is like that, the one that `tokens` finds (`tokenizes_iff_eq_tokens`).

Tokens and pieces tell the same. Spreading the runs of such a list out to characters gives the one
reading of the format, and joining the characters again gives the list back, because runs are kept
apart. So a second list would be a second reading.
-/

namespace Datestamp.Format

structure Tokenizes (format : Text) (ts : List Token) : Prop where
  /-- Put together, the tokens are the format. -/
  lossless : ts.flatMap Token.text = format
  /-- No run is empty. -/
  nonempty : ∀ run, .literal run ∈ ts → run ≠ []
  /-- No two runs are side by side. -/
  apart : ∀ before r s after, ts ≠ before ++ .literal r :: .literal s :: after
  /-- At no place in a run does the rest of the format, past the end of the run, start with a
  directive. -/
  plain : ∀ before a b after, ts = before ++ .literal (a ++ b) :: after → b ≠ [] →
    ∀ d : Directive, ¬ d.token <+: b ++ after.flatMap Token.text

namespace Tokenizes

variable {format t run : Text} {token : Token} {ts : List Token}

/-! ## One token at a time -/

theorem nil : Tokenizes [] [] where
  lossless := rfl
  nonempty := by
    intro run h
    cases h
  apart := by
    intro before r s after h
    simp at h
  plain := by
    intro before a b after h
    simp at h

theorem tail (h : Tokenizes format (token :: ts)) : Tokenizes (ts.flatMap Token.text) ts where
  lossless := rfl
  nonempty := by
    intro run hrun
    exact h.nonempty run (List.mem_cons_of_mem _ hrun)
  apart := by
    rintro before r s after rfl
    exact h.apart (token :: before) r s after rfl
  plain := by
    rintro before a b after rfl
    exact h.plain (token :: before) a b after rfl

theorem directive_cons (h : Tokenizes t ts) (d : Directive) :
    Tokenizes (d.token ++ t) (.directive d :: ts) where
  lossless := by
    rw [List.flatMap_cons, h.lossless]
    rfl
  nonempty := by
    intro run hrun
    rcases List.mem_cons.mp hrun with he | hrun
    · cases he
    · exact h.nonempty run hrun
  apart := by
    intro before r s after he
    rcases List.cons_eq_append_iff.mp he with ⟨-, he⟩ | ⟨before, -, rfl⟩
    · cases he
    · exact h.apart before r s after rfl
  plain := by
    intro before a b after he
    rcases List.cons_eq_append_iff.mp he with ⟨-, he⟩ | ⟨before, -, rfl⟩
    · cases he
    · exact h.plain before a b after rfl

theorem literal_cons (h : Tokenizes t ts) (hne : run ≠ [])
    (hapart : ∀ s after, ts ≠ .literal s :: after)
    (hplain : ∀ a b, run = a ++ b → b ≠ [] → ∀ d : Directive, ¬ d.token <+: b ++ t) :
    Tokenizes (run ++ t) (.literal run :: ts) where
  lossless := by
    rw [List.flatMap_cons, h.lossless]
    rfl
  nonempty := by
    intro run' hrun
    rcases List.mem_cons.mp hrun with he | hrun
    · obtain rfl := Token.literal.inj he
      exact hne
    · exact h.nonempty run' hrun
  apart := by
    intro before r s after he
    rcases List.cons_eq_append_iff.mp he with ⟨-, he⟩ | ⟨before, -, rfl⟩
    · exact hapart s after (List.cons.inj he).2.symm
    · exact h.apart before r s after rfl
  plain := by
    intro before a b after he
    rcases List.cons_eq_append_iff.mp he with ⟨-, he⟩ | ⟨before, -, rfl⟩
    · obtain ⟨hrun, rfl⟩ := List.cons.inj he
      rw [h.lossless]
      exact hplain a b (Token.literal.inj hrun).symm
    · exact h.plain before a b after rfl

/-! ## The tokens of a format are such a list -/

/-- A character that starts no directive goes to the run behind it, or makes a new one. -/
theorem char_cons {c : Char} (h : Tokenizes t ts) (hc : ∀ d : Directive, ¬ d.token <+: c :: t) :
    Tokenizes (c :: t) (consChar c ts) := by
  have alone : (∀ s after, ts ≠ .literal s :: after) → Tokenizes (c :: t) (.literal [c] :: ts) := by
    intro hapart
    show Tokenizes ([c] ++ t) _
    refine literal_cons h (by simp) hapart ?_
    intro a b hab hb
    rcases List.singleton_eq_append_iff.mp hab with ⟨-, rfl⟩ | ⟨-, rfl⟩
    · exact hc
    · exact absurd rfl hb
  match ts with
  | [] => exact alone (by simp)
  | .directive d :: ts => exact alone (by simp)
  | .literal run :: ts =>
      obtain rfl := h.lossless
      show Tokenizes ((c :: run) ++ ts.flatMap Token.text) _
      refine literal_cons h.tail (by simp) ?_ ?_
      · rintro s after rfl
        exact h.apart [] run s after rfl
      · intro a b hab hb
        rcases List.cons_eq_append_iff.mp hab with ⟨-, rfl⟩ | ⟨a, -, rfl⟩
        · exact hc
        · exact h.plain [] a b ts rfl hb

theorem of_munch {ps : List Piece} (h : Munch format ps) : Tokenizes format (join ps) := by
  induction h with
  | nil => exact .nil
  | directive _ _ ih => exact ih.directive_cons _
  | char no_directive _ ih => exact ih.char_cons no_directive

end Tokenizes

/-! ## Such a list is a reading of the format -/

/-- The pieces of a token, a run falling into its characters. -/
def Token.pieces : Token → List Piece
  | .literal run => run.map .char
  | .directive d => [.directive d]

theorem munch_run {run t : Text} {ps : List Piece} (h : Munch t ps)
    (hplain : ∀ a b, run = a ++ b → b ≠ [] → ∀ d : Directive, ¬ d.token <+: b ++ t) :
    Munch (run ++ t) (run.map .char ++ ps) := by
  induction run with
  | nil => exact h
  | cons c run ih =>
      refine .char (hplain [] (c :: run) rfl (by simp)) (ih ?_)
      rintro a b rfl
      exact hplain (c :: a) b rfl

theorem Tokenizes.munch {format : Text} {ts : List Token} (h : Tokenizes format ts) :
    Munch format (ts.flatMap Token.pieces) := by
  induction ts generalizing format with
  | nil =>
      obtain rfl := h.lossless
      exact .nil
  | cons token ts ih =>
      have htail := ih h.tail
      obtain rfl := h.lossless
      cases token with
      | directive d => exact htail.token_append d
      | literal run =>
          apply munch_run htail
          rintro a b rfl
          exact h.plain [] a b ts rfl

/-! ## Its runs are found again -/

theorem consChar_of_no_run {c : Char} {ts : List Token} (h : ∀ s after, ts ≠ .literal s :: after) :
    consChar c ts = .literal [c] :: ts := by
  unfold consChar
  split
  · exact absurd rfl (h _ _)
  · rfl

theorem join_run {run : Text} {ps : List Piece} (hne : run ≠ [])
    (hapart : ∀ s after, join ps ≠ .literal s :: after) :
    join (run.map .char ++ ps) = .literal run :: join ps := by
  induction run with
  | nil => exact absurd rfl hne
  | cons c run ih =>
      show consChar c (join (run.map .char ++ ps)) = _
      cases run with
      | nil => exact consChar_of_no_run hapart
      | cons c' run =>
          rw [ih (by simp)]
          rfl

theorem Tokenizes.join_pieces {format : Text} {ts : List Token} (h : Tokenizes format ts) :
    join (ts.flatMap Token.pieces) = ts := by
  induction ts generalizing format with
  | nil => rfl
  | cons token ts ih =>
      have htail := ih h.tail
      rw [List.flatMap_cons]
      cases token with
      | directive d =>
          show .directive d :: join (ts.flatMap Token.pieces) = _
          rw [htail]
      | literal run =>
          have hne := h.nonempty run List.mem_cons_self
          have hapart : ∀ s after, join (ts.flatMap Token.pieces) ≠ .literal s :: after := by
            intro s after he
            rw [htail] at he
            exact h.apart [] run s after (by rw [he]; rfl)
          rw [Token.pieces, join_run hne hapart, htail]

/-- **The tokens of a format are its only tokenization.** They give the format back, in runs that
are not empty, not side by side and free of directives; and no other list of tokens does. -/
theorem tokenizes_iff_eq_tokens (format : Text) (ts : List Token) :
    Tokenizes format ts ↔ ts = tokens format := by
  constructor
  · intro h
    have hpieces : ts.flatMap Token.pieces = pieces format := munch_iff.mp h.munch
    rw [tokens, ← hpieces, h.join_pieces]
  · rintro rfl
    exact .of_munch (munch_pieces format)

end Datestamp.Format
