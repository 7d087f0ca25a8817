import Datestamp.Proofs.Directive.Recognition

/-!
# The grammar of directives

The tokens of the table are exactly the texts of a small grammar: a doubled percent sign, a percent
sign with one of nine letters, and `%[!*][0-3]z` with flag and digit each left out or not. They are
prefix-free, so recognising a directive needs no priorities. Any search that finds only what fits,
and finds something if anything fits, finds the same (`eq_longest?`): the first entry that fits, the
last one and the longest one, in whatever order the table stands.
-/

namespace Datestamp.Directive

/-! ## The texts that are tokens -/

/-- The grammar of tokens. -/
inductive IsToken : Text → Prop
  | percent : IsToken ['%', '%']
  | time {letter : Char} (h : letter ∈ ['Y', 'm', 'd', 'H', 'M', 'S', 'w', 'j', 'Z']) :
      IsToken ['%', letter]
  | offset {flag digit : Text} (hflag : flag ∈ [[], ['!'], ['*']])
      (hdigit : digit ∈ [[], ['0'], ['1'], ['2'], ['3']]) :
      IsToken ('%' :: flag ++ digit ++ ['z'])

theorem isToken_token (d : Directive) : IsToken d.token := by
  cases d with
  | percent => exact .percent
  | time f => exact .time (by cases f <;> simp [timeLetter])
  | offset kind part =>
      refine .offset (by cases kind <;> simp [kindFlag]) ?_
      cases part with
      | none => simp
      | some part => cases part <;> simp [partDigit]

theorem exists_timeLetter {letter : Char}
    (h : letter ∈ ['Y', 'm', 'd', 'H', 'M', 'S', 'w', 'j', 'Z']) : ∃ f, timeLetter f = letter := by
  simp only [List.mem_cons, List.not_mem_nil, or_false] at h
  rcases h with rfl | rfl | rfl | rfl | rfl | rfl | rfl | rfl | rfl
  · exact ⟨.year, rfl⟩
  · exact ⟨.month, rfl⟩
  · exact ⟨.day, rfl⟩
  · exact ⟨.hour, rfl⟩
  · exact ⟨.minute, rfl⟩
  · exact ⟨.second, rfl⟩
  · exact ⟨.weekday, rfl⟩
  · exact ⟨.yearDay, rfl⟩
  · exact ⟨.zoneName, rfl⟩

theorem exists_kindFlag {flag : Text} (h : flag ∈ [[], ['!'], ['*']]) :
    ∃ kind, kindFlag kind = flag := by
  simp only [List.mem_cons, List.not_mem_nil, or_false] at h
  rcases h with rfl | rfl | rfl
  · exact ⟨.effective, rfl⟩
  · exact ⟨.base, rfl⟩
  · exact ⟨.increment, rfl⟩

theorem exists_partDigit {digit : Text} (h : digit ∈ [[], ['0'], ['1'], ['2'], ['3']]) :
    ∃ part : Option OffsetPart, (part.map partDigit).toList = digit := by
  simp only [List.mem_cons, List.not_mem_nil, or_false] at h
  rcases h with rfl | rfl | rfl | rfl | rfl
  · exact ⟨none, rfl⟩
  · exact ⟨some .sign, rfl⟩
  · exact ⟨some .hour, rfl⟩
  · exact ⟨some .minute, rfl⟩
  · exact ⟨some .second, rfl⟩

theorem isToken_iff {s : Text} : IsToken s ↔ ∃ d : Directive, d.token = s := by
  constructor
  · intro h
    cases h with
    | percent => exact ⟨.percent, rfl⟩
    | time h =>
        obtain ⟨f, rfl⟩ := exists_timeLetter h
        exact ⟨.time f, rfl⟩
    | offset hflag hdigit =>
        obtain ⟨kind, rfl⟩ := exists_kindFlag hflag
        obtain ⟨part, rfl⟩ := exists_partDigit hdigit
        exact ⟨.offset kind part, rfl⟩
  · rintro ⟨d, rfl⟩
    exact isToken_token d

/-! ## Recognition in any order -/

variable {t : Text} {ds : List Directive}

/-- A search that finds only what fits, and finds something if anything fits, leaves no choice. -/
theorem eq_longest? {found : Option Directive} (hfits : ∀ d, found = some d → d.token <+: t)
    (hfinds : found = none → ∀ d : Directive, ¬ d.token <+: t) : found = longest? t := by
  cases found with
  | none => exact (longest?_eq_none_iff.mpr (hfinds rfl)).symm
  | some d => exact (longest?_eq_some_iff.mpr (hfits d rfl)).symm

/-- The first directive of a table that fits the head of a text. -/
def firstIn (ds : List Directive) (t : Text) : Option Directive :=
  ds.find? fun d => d.token.isPrefixOf t

/-- The last directive of a table that fits the head of a text. -/
def lastIn (ds : List Directive) (t : Text) : Option Directive :=
  (ds.filter fun d => d.token.isPrefixOf t).getLast?

theorem firstIn_eq_longest? (hall : ∀ d, d ∈ ds) : firstIn ds t = longest? t := by
  apply eq_longest?
  · intro d h
    unfold firstIn at h
    simpa using List.find?_some h
  · intro h d
    simpa using List.find?_eq_none.mp h d (hall d)

theorem lastIn_eq_longest? (hall : ∀ d, d ∈ ds) : lastIn ds t = longest? t := by
  apply eq_longest?
  · intro d h
    simpa using (List.mem_filter.mp (List.mem_of_getLast? h)).2
  · intro h d
    have hnone := List.filter_eq_nil_iff.mp (List.getLast?_eq_none_iff.mp h) d (hall d)
    simpa using hnone

theorem longestIn_eq_longest? (hall : ∀ d, d ∈ ds) : longestIn ds t = longest? t := by
  apply eq_longest?
  · intro d h
    exact (mem_of_longestIn h).2
  · intro h d hd
    exact longestIn_ne_none (hall d) hd h

/-- **Recognition is the grammar, and needs no priorities.** A text is recognised exactly if it starts
with a text of the grammar, and the directive has that token. No text starts with two tokens; so in
whatever order the table stands, the first, the last and the longest entry that fits are the same. -/
theorem recognises_grammar_in_any_order :
    (∀ t s, (∃ d, longest? t = some d ∧ d.token = s) ↔ IsToken s ∧ s <+: t) ∧
      (∀ t, ∀ d ∈ table, ∀ e ∈ table, d.token <+: t → e.token <+: t → d.token = e.token) ∧
      ∀ ds : List Directive, ds.Perm table → ∀ t, firstIn ds t = longest? t ∧
        lastIn ds t = longest? t ∧ longestIn ds t = longest? t := by
  refine ⟨?_, ?_, ?_⟩
  · intro t s
    constructor
    · rintro ⟨d, hd, rfl⟩
      exact ⟨isToken_token d, longest?_eq_some_iff.mp hd⟩
    · rintro ⟨hs, hprefix⟩
      obtain ⟨d, rfl⟩ := isToken_iff.mp hs
      exact ⟨d, longest?_eq_some_iff.mpr hprefix, rfl⟩
  · intro t d _ e _ hd he
    rw [eq_of_token_isPrefix hd he]
  · intro ds hperm t
    have hall : ∀ d, d ∈ ds := fun d => hperm.mem_iff.mpr (mem_table d)
    exact ⟨firstIn_eq_longest? hall, lastIn_eq_longest? hall, longestIn_eq_longest? hall⟩

/-- Flag and digit are recognised in this order only; and the table may be turned round. -/
theorem recognises_grammar_in_any_order_turned_round :
    (∃ d, longest? "%*3z4".toList = some d ∧ d.token = "%*3z".toList) ∧
      longest? "%3*z".toList = none ∧
      firstIn table.reverse "%%z".toList = some .percent ∧
      lastIn table.reverse "%%z".toList = some .percent := by
  obtain ⟨hgrammar, -, horder⟩ := recognises_grammar_in_any_order
  obtain ⟨hfirst, hlast, -⟩ := horder table.reverse table.reverse_perm "%%z".toList
  have hpercent : longest? "%%z".toList = some .percent := by decide
  refine ⟨(hgrammar _ _).mpr ⟨?_, ?_⟩, by decide, hfirst.trans hpercent, hlast.trans hpercent⟩
  · show IsToken ('%' :: ['*'] ++ ['3'] ++ ['z'])
    exact .offset (by decide) (by decide)
  · exact ⟨['4'], rfl⟩

end Datestamp.Directive
