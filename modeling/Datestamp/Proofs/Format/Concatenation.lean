import Datestamp.Proofs.Format.Quoting
import Datestamp.Proofs.Format.Tokenization

/-!
# Formats put together

A format may be compiled in parts wherever no directive can reach across a cut. A directive that
starts before the cut and ends behind it leaves its beginning at the end of the first part, as the
end of a run of characters; so a format can be followed by anything exactly if it does not leave a
directive open like that (`compiles_in_parts_iff`). A percent sign at the end is harmless where it
belongs to a directive, and `%%` is one: what counts is how the percent signs before it were paired.

One continuation shows every open end, the letter `z`, with which each of them is the token of an
offset. Other continuations may hide it: `%` and `%%` have the same templates one by one and put
together, although the tokens differ.
-/

namespace Datestamp

/-! ## The beginning of a directive -/

namespace Directive

/-- A directive is started and not finished. -/
def Begun (u : Text) : Prop := u ≠ [] ∧ ∃ d : Directive, u <+: d.token ∧ u ≠ d.token

/-- A percent sign, with a flag or none and with a digit or none. -/
def openings : List Text :=
  ["%".toList, "%!".toList, "%*".toList].flatMap fun lead =>
    lead :: ['0', '1', '2', '3'].map fun digit => lead ++ [digit]

theorem begun_iff_mem_openings (u : Text) : Begun u ↔ u ∈ openings := by
  constructor
  · rintro ⟨hne, d, hstart, hunfinished⟩
    have all : ∀ d ∈ table, ∀ n < d.token.length, n ≠ 0 → d.token.take n ∈ openings := by decide
    have hshort : u.length < d.token.length := by
      apply Nat.lt_of_le_of_ne hstart.length_le
      intro hlength
      exact hunfinished (hstart.eq_of_length hlength)
    rw [List.prefix_iff_eq_take.mp hstart]
    exact all d (mem_table d) _ hshort (mt List.eq_nil_of_length_eq_zero hne)
  · intro h
    have all : ∀ u ∈ openings, u ≠ [] ∧ ∃ d ∈ table, u <+: d.token ∧ u ≠ d.token := by decide
    obtain ⟨hne, d, -, hd⟩ := all u h
    exact ⟨hne, d, hd⟩

variable {u : Text}

namespace Begun

theorem head?_eq (h : Begun u) : u.head? = some '%' := by
  have all : ∀ u ∈ openings, u.head? = some '%' := by decide
  exact all u ((begun_iff_mem_openings u).mp h)

theorem percent_not_mem_tail (h : Begun u) : '%' ∉ u.tail := by
  have all : ∀ u ∈ openings, '%' ∉ u.tail := by decide
  exact all u ((begun_iff_mem_openings u).mp h)

/-- With a `z` behind it, what is begun is an offset. -/
theorem exists_offset (h : Begun u) : ∃ kind part, (offset kind part).token = u ++ ['z'] := by
  have all : ∀ u ∈ openings, ∃ kind ∈ [OffsetKind.base, .increment, .effective],
      ∃ part ∈ [none, some OffsetPart.sign, some .hour, some .minute, some .second],
        (offset kind part).token = u ++ ['z'] := by decide
  obtain ⟨kind, -, part, -, htoken⟩ := all u ((begun_iff_mem_openings u).mp h)
  exact ⟨kind, part, htoken⟩

/-- A whole token in it would be that of the directive that is begun. -/
theorem not_token_isPrefix (h : Begun u) (e : Directive) : ¬ e.token <+: u := by
  intro he
  obtain ⟨-, d, hstart, hunfinished⟩ := h
  obtain rfl := eq_of_token_isPrefix_token (he.trans hstart)
  exact hunfinished (hstart.eq_of_length_le he.length_le)

/-- A directive that reaches across the end of `u` is begun by `u`. -/
theorem of_token_isPrefix_append {b : Text} {d : Directive} (hne : u ≠ []) (hno : ¬ d.token <+: u)
    (h : d.token <+: u ++ b) : Begun u := by
  rcases List.prefix_or_prefix_of_prefix h (List.prefix_append u b) with hwhole | hstart
  · exact absurd hwhole hno
  · refine ⟨hne, d, hstart, ?_⟩
    rintro rfl
    exact hno (List.prefix_refl _)

end Begun

end Directive

namespace Format

open Directive

/-! ## Open ends -/

/-- The format ends in a run of characters that ends in the beginning `u` of a directive. -/
def LeavesOpen (format u : Text) : Prop :=
  Begun u ∧ ∃ run, (tokens format).getLast? = some (.literal run) ∧ u <:+ run

variable {a b t u : Text} {c : Char}

/-- The run at the end of a list of tokens, empty where the last token is none. -/
def lastRun (ts : List Token) : Text :=
  match ts.getLast? with
  | some (.literal run) => run
  | _ => []

theorem leavesOpen_iff_lastRun : LeavesOpen a u ↔ Begun u ∧ u <:+ lastRun (tokens a) := by
  constructor
  · rintro ⟨hbegun, run, hlast, hsuffix⟩
    refine ⟨hbegun, ?_⟩
    rwa [lastRun, hlast]
  · rintro ⟨hbegun, hsuffix⟩
    refine ⟨hbegun, ?_⟩
    unfold lastRun at hsuffix
    split at hsuffix
    · rename_i run hlast
      exact ⟨run, hlast, hsuffix⟩
    · exact absurd (List.suffix_nil.mp hsuffix) hbegun.1

theorem flatMap_text_tokens (format : Text) : (tokens format).flatMap Token.text = format :=
  (Tokenizes.of_munch (munch_pieces format)).lossless

theorem LeavesOpen.isSuffix (h : LeavesOpen a u) : u <:+ a := by
  obtain ⟨-, run, hlast, hsuffix⟩ := h
  obtain ⟨before, hbefore⟩ := List.getLast?_eq_some_iff.mp hlast
  have hrun : run <:+ a := by
    rw [← flatMap_text_tokens a, hbefore, List.flatMap_append]
    exact ⟨_, congrArg _ (List.append_nil run).symm⟩
  exact hsuffix.trans hrun

/-! ## Open ends, one piece at a time -/

theorem lastRun_directive_cons (d : Directive) (ts : List Token) :
    lastRun (.directive d :: ts) = lastRun ts := by
  unfold lastRun
  rw [List.getLast?_cons]
  cases ts.getLast? <;> rfl

/-- A character in front goes to the run at the end only if there is nothing else. -/
theorem lastRun_consChar (c : Char) (ts : List Token) :
    ts.flatMap Token.text = lastRun ts ∧ lastRun (consChar c ts) = c :: lastRun ts ∨
      lastRun (consChar c ts) = lastRun ts := by
  match ts with
  | [] => exact .inl ⟨rfl, rfl⟩
  | [.literal run] => exact .inl ⟨List.append_nil run, rfl⟩
  | .literal run :: token :: ts => exact .inr (by simp [consChar, lastRun])
  | .directive d :: ts => exact .inr (by simp [consChar, lastRun])

theorem not_leavesOpen_nil : ¬ LeavesOpen [] u := by
  intro h
  exact h.1.1 (List.suffix_nil.mp h.isSuffix)

theorem leavesOpen_token_append (d : Directive) :
    LeavesOpen (d.token ++ t) u ↔ LeavesOpen t u := by
  have htokens : tokens (d.token ++ t) = .directive d :: tokens t := by
    rw [tokens, pieces_token_append]
    rfl
  rw [leavesOpen_iff_lastRun, leavesOpen_iff_lastRun, htokens, lastRun_directive_cons]

theorem pieces_of_percent_not_mem (h : '%' ∉ t) : pieces t = t.map .char := by
  induction t with
  | nil => exact pieces_nil
  | cons c t ih =>
      have hc : c ≠ '%' := fun hc => h (hc ▸ List.mem_cons_self)
      rw [pieces_char_of_ne hc, ih fun ht => h (List.mem_cons_of_mem c ht), List.map_cons]

theorem pieces_of_begun (h : Begun u) : pieces u = u.map .char := by
  obtain ⟨rest, rfl⟩ := List.head?_eq_some_iff.mp h.head?_eq
  have hrest : '%' ∉ rest := h.percent_not_mem_tail
  rw [pieces_char h.not_token_isPrefix, pieces_of_percent_not_mem hrest, List.map_cons]

theorem leavesOpen_of_begun (h : Begun u) : LeavesOpen u u := by
  have hjoin : join (u.map .char ++ []) = .literal u :: join [] := join_run h.1 (by simp [join])
  have htokens : tokens u = [.literal u] := by
    rwa [List.append_nil, ← pieces_of_begun h] at hjoin
  refine ⟨h, u, ?_, List.suffix_refl u⟩
  rw [htokens]
  rfl

theorem leavesOpen_char (hno : ∀ d : Directive, ¬ d.token <+: c :: t) :
    LeavesOpen (c :: t) u ↔ LeavesOpen t u ∨ Begun u ∧ u = c :: t := by
  have htokens : tokens (c :: t) = consChar c (tokens t) := by
    rw [tokens, pieces_char hno]
    rfl
  constructor
  · intro h
    obtain ⟨hbegun, hsuffix⟩ := leavesOpen_iff_lastRun.mp h
    rw [htokens] at hsuffix
    rcases lastRun_consChar c (tokens t) with ⟨hrun, hlast⟩ | hlast
    · rw [hlast] at hsuffix
      rcases List.suffix_cons_iff.mp hsuffix with hall | hsuffix
      · rw [← hrun, flatMap_text_tokens] at hall
        exact .inr ⟨hbegun, hall⟩
      · exact .inl (leavesOpen_iff_lastRun.mpr ⟨hbegun, hsuffix⟩)
    · rw [hlast] at hsuffix
      exact .inl (leavesOpen_iff_lastRun.mpr ⟨hbegun, hsuffix⟩)
  · rintro (h | ⟨hbegun, rfl⟩)
    · obtain ⟨hbegun, hsuffix⟩ := leavesOpen_iff_lastRun.mp h
      refine leavesOpen_iff_lastRun.mpr ⟨hbegun, ?_⟩
      rw [htokens]
      rcases lastRun_consChar c (tokens t) with ⟨-, hlast⟩ | hlast
      · rw [hlast]
        exact hsuffix.trans (List.suffix_cons c _)
      · rwa [hlast]
    · exact leavesOpen_of_begun hbegun

/-! ## Cuts that no directive reaches across -/

/-- If the second part finishes nothing that the first leaves open, the two are read apart. -/
theorem pieces_append (h : ∀ u, LeavesOpen a u → ∀ d : Directive, ¬ d.token <+: u ++ b) :
    pieces (a ++ b) = pieces a ++ pieces b := by
  induction a using reading_induction with
  | nil => rw [pieces_nil, List.nil_append, List.nil_append]
  | directive d t ih =>
      have ht := ih fun u hu => h u ((leavesOpen_token_append d).mpr hu)
      rw [List.append_assoc, pieces_token_append, pieces_token_append, ht, List.cons_append]
  | char c t no_directive ih =>
      have ht := ih fun u hu => h u ((leavesOpen_char no_directive).mpr (.inl hu))
      -- a directive across the cut would be begun here, by all that is left of the first part
      have hno : ∀ d : Directive, ¬ d.token <+: c :: (t ++ b) := by
        intro d hd
        have hbegun := Begun.of_token_isPrefix_append (List.cons_ne_nil c t) (no_directive d) hd
        exact h _ (leavesOpen_of_begun hbegun) d hd
      rw [List.cons_append, pieces_char hno, pieces_char no_directive, ht, List.cons_append]

/-- An open end is read as characters, and together with what it lacks as a directive. -/
theorem exists_pieces_of_leavesOpen (h : LeavesOpen a u) :
    ∃ ps, pieces a = ps ++ u.map .char ∧
      ∀ (d : Directive) (v : Text), d.token = u ++ v → pieces (a ++ v) = ps ++ [.directive d] := by
  induction a using reading_induction with
  | nil => exact absurd h not_leavesOpen_nil
  | directive e t ih =>
      obtain ⟨ps, hopen, hclosed⟩ := ih ((leavesOpen_token_append e).mp h)
      refine ⟨.directive e :: ps, ?_, ?_⟩
      · rw [pieces_token_append, hopen, List.cons_append]
      · intro d v hd
        rw [List.append_assoc, pieces_token_append, hclosed d v hd, List.cons_append]
  | char c t no_directive ih =>
      rcases (leavesOpen_char no_directive).mp h with h | ⟨hbegun, rfl⟩
      · obtain ⟨ps, hopen, hclosed⟩ := ih h
        refine ⟨.char c :: ps, ?_, ?_⟩
        · rw [pieces_char no_directive, hopen, List.cons_append]
        · intro d v hd
          -- what is begun here would hold the percent sign of the open end behind its own
          have hno : ∀ e : Directive, ¬ e.token <+: c :: (t ++ v) := by
            intro e he
            have hbegun := Begun.of_token_isPrefix_append (List.cons_ne_nil c t) (no_directive e) he
            have hpercent : '%' ∈ t := h.isSuffix.mem (List.mem_of_head? h.1.head?_eq)
            exact hbegun.percent_not_mem_tail hpercent
          rw [List.cons_append, pieces_char hno, hclosed d v hd, List.cons_append]
      · refine ⟨[], pieces_of_begun hbegun, ?_⟩
        intro d v hd
        rw [← hd, ← List.append_nil d.token, pieces_token_append, pieces_nil, List.nil_append]

/-! ## The templates of the parts -/

theorem compile_eq_flatMap_pieces (format : Text) :
    compile format = (pieces format).flatMap Piece.template := by
  induction format using reading_induction with
  | nil => rw [compile_nil, pieces_nil, List.flatMap_nil]
  | directive d t ih =>
      rw [compile_token_append, pieces_token_append, List.flatMap_cons, ih]
      rfl
  | char c t no_directive ih =>
      rw [compile_char no_directive, pieces_char no_directive, List.flatMap_cons, ih]
      rfl

/-- The template of an offset starts with a placeholder, the template of its characters with a
doubled percent sign. -/
theorem template_offset_ne (h : Begun u) (kind : OffsetKind) (part : Option OffsetPart) (t : Text) :
    (Directive.offset kind part).template ≠ doublePercents u ++ t := by
  obtain ⟨rest, rfl⟩ := List.head?_eq_some_iff.mp h.head?_eq
  have hplaceholder : (Directive.offset kind part).template[1]? = some '(' := by
    cases part <;> rfl
  intro heq
  rw [heq] at hplaceholder
  have hpercent : (doublePercents ('%' :: rest) ++ t)[1]? = some '%' := rfl
  rw [hpercent] at hplaceholder
  exact absurd hplaceholder (by decide)

theorem compile_append_z_ne (h : LeavesOpen a u) :
    compile (a ++ ['z']) ≠ compile a ++ compile ['z'] := by
  obtain ⟨kind, part, htoken⟩ := h.1.exists_offset
  obtain ⟨ps, hopen, hclosed⟩ := exists_pieces_of_leavesOpen h
  have hwhole : compile (a ++ ['z']) =
      ps.flatMap Piece.template ++ (Directive.offset kind part).template := by
    rw [compile_eq_flatMap_pieces, hclosed _ _ htoken, List.flatMap_append, List.flatMap_singleton]
    rfl
  have hrun : (u.map Piece.char).flatMap Piece.template = doublePercents u :=
    flatMap_template_expand (.literal u)
  have hparts : compile a ++ compile ['z'] =
      ps.flatMap Piece.template ++ (doublePercents u ++ compile ['z']) := by
    rw [compile_eq_flatMap_pieces a, hopen, List.flatMap_append, hrun, List.append_assoc]
  rw [hwhole, hparts]
  intro heq
  exact template_offset_ne h.1 kind part _ (List.append_cancel_left heq)

/-- **When a format may be compiled in parts.** Whatever follows a format, the template of both is
that of the one followed by that of the other, exactly if the format does not end in a run of
characters whose end is the beginning of a directive. Those beginnings are a percent sign, a flag or
none, and a digit or none. -/
theorem compiles_in_parts_iff (a : Text) :
    ((∀ b, compile (a ++ b) = compile a ++ compile b) ↔ ∀ u, ¬ LeavesOpen a u) ∧
      ∀ u, Begun u ↔ u ∈ openings := by
  refine ⟨⟨?_, ?_⟩, begun_iff_mem_openings⟩
  · intro h u hopen
    exact compile_append_z_ne hopen (h ['z'])
  · intro h b
    have hpieces : pieces (a ++ b) = pieces a ++ pieces b :=
      pieces_append fun u hopen => absurd hopen (h u)
    rw [compile_eq_flatMap_pieces, compile_eq_flatMap_pieces, compile_eq_flatMap_pieces, hpieces,
      List.flatMap_append]

/-- An open end may go unseen. -/
example : compile "%%%".toList = compile "%".toList ++ compile "%%".toList := by decide +kernel

end Format

end Datestamp
