import Datestamp.EventFilter
import Datestamp.Proofs.Text.Trimming

/-!
# How event filters are read

`EventFilter.ReadAs` says what each part of a specification describes, without naming a reader: the
words for levels are told by their table, in any case of their letters, and a part with an equals sign
is cut at the first one. Every part describes exactly one filter (`readAs_iff`). A specification is
read one part at a time, so the filters of two specifications joined by a comma are the filters of
both (`parse_append`).
-/

namespace Datestamp

/-! ## Words for levels -/

namespace Level

/-- The words that spell a level, in any case of their letters. -/
def SpelledBy (l : Level) (word : Text) : Prop := (word.map Char.toLower, l) ∈ words

theorem ofWord?_eq_some_iff {word : Text} {l : Level} : ofWord? word = some l ↔ l.SpelledBy word := by
  unfold ofWord? SpelledBy
  generalize word.map Char.toLower = lower
  constructor
  · intro h
    obtain ⟨before, after, hwords, -⟩ := List.lookup_eq_some_iff.mp h
    rw [hwords]
    exact List.mem_append_right before List.mem_cons_self
  · intro h
    simp only [words, List.mem_cons, Prod.mk.injEq, List.not_mem_nil, or_false] at h
    rcases h with h | h | h | h | h | h
    all_goals
      obtain ⟨rfl, rfl⟩ := h
      rfl

theorem ofWord?_eq_none_iff {word : Text} : ofWord? word = none ↔ ∀ l : Level, ¬ l.SpelledBy word := by
  rw [Option.eq_none_iff_forall_ne_some]
  exact forall_congr' fun l => not_congr ofWord?_eq_some_iff

theorem spelledBy_name (l : Level) : l.SpelledBy l.name := by
  unfold SpelledBy
  cases l <;> decide

theorem not_spelledBy_nil (l : Level) : ¬ l.SpelledBy [] := by
  unfold SpelledBy
  cases l <;> decide

/-- A blank is no capital letter. -/
theorem toLower_of_isBlank {c : Char} (h : Text.isBlank c = true) : c.toLower = c := by
  have hcapital : ∀ n ∈ List.range 26, CharClass.isInside Text.whiteSpace.changes (65 + n) = false := by
    decide
  apply dif_neg
  rintro ⟨hfrom, hto⟩
  have hfrom : 65 ≤ c.toNat := hfrom
  have hto : c.toNat ≤ 90 := hto
  have hletter := hcapital (c.toNat - 65) (List.mem_range.mpr (by omega))
  rw [Nat.add_sub_cancel' hfrom] at hletter
  rw [Text.isBlank, CharClass.contains, hletter] at h
  cases h

/-- The words for levels hold neither blanks nor separators. -/
theorem SpelledBy.letter {l : Level} {word : Text} (h : l.SpelledBy word) {c : Char}
    (hc : c ∈ word) : Text.isBlank c = false ∧ c ≠ ',' ∧ c ≠ '=' := by
  have hwords : (words.all fun entry => entry.1.all fun d =>
      !Text.isBlank d && d != ',' && d != '=') = true := by decide
  have hlower := List.all_eq_true.mp (List.all_eq_true.mp hwords _ h) c.toLower
    (List.mem_map_of_mem hc)
  simp only [Bool.and_eq_true, Bool.not_eq_true', bne_iff_ne] at hlower
  obtain ⟨⟨hblank, hcomma⟩, hequals⟩ := hlower
  refine ⟨?_, ?_, ?_⟩
  · cases hc : Text.isBlank c with
    | false => rfl
    | true =>
        rw [toLower_of_isBlank hc, hc] at hblank
        exact hblank
  · rintro rfl
    exact hcomma rfl
  · rintro rfl
    exact hequals rfl

end Level

namespace EventFilter

/-! ## What a part describes -/

/-- What a part of a specification describes, its blanks being trimmed: a level if it spells one; else
what stands before its first equals sign is the target, and what follows may spell a level. A part
without an equals sign that spells no level is a target. -/
inductive ReadAs : Text → EventFilter → Prop
  | level {word : Text} {l : Level} (spelled : l.SpelledBy word) : ReadAs word ⟨none, some l⟩
  | lone {target : Text} (equals : '=' ∉ target) (unspelled : ∀ l : Level, ¬ l.SpelledBy target) :
      ReadAs target ⟨some target, none⟩
  | both {target word : Text} {l : Level} (equals : '=' ∉ target) (spelled : l.SpelledBy word) :
      ReadAs (target ++ '=' :: word) ⟨some target, some l⟩
  | target {target word : Text} (equals : '=' ∉ target) (unspelled : ∀ l : Level, ¬ l.SpelledBy word) :
      ReadAs (target ++ '=' :: word) ⟨some target, none⟩

theorem ofPart_append_equals {target : Text} (h : '=' ∉ target) (word : Text) :
    ofPart (target ++ '=' :: word) = ⟨some target, Level.ofWord? word⟩ := by
  rw [ofPart, Text.cut?_append h]

theorem ofPart_of_spelledBy {word : Text} {l : Level} (h : l.SpelledBy word) :
    ofPart word = ⟨none, some l⟩ := by
  have hequals : '=' ∉ word := fun hc => (h.letter hc).2.2 rfl
  rw [ofPart, Text.cut?_eq_none_iff.mpr hequals, Level.ofWord?_eq_some_iff.mpr h]

theorem ofPart_of_unspelled {target : Text} (hequals : '=' ∉ target)
    (h : ∀ l : Level, ¬ l.SpelledBy target) : ofPart target = ⟨some target, none⟩ := by
  rw [ofPart, Text.cut?_eq_none_iff.mpr hequals, Level.ofWord?_eq_none_iff.mpr h]

/-- Every part describes exactly one filter. -/
theorem readAs_iff {part : Text} {f : EventFilter} : ReadAs part f ↔ ofPart part = f := by
  constructor
  · intro h
    cases h with
    | level spelled => exact ofPart_of_spelledBy spelled
    | lone equals unspelled => exact ofPart_of_unspelled equals unspelled
    | both equals spelled =>
        rw [ofPart_append_equals equals, Level.ofWord?_eq_some_iff.mpr spelled]
    | target equals unspelled =>
        rw [ofPart_append_equals equals, Level.ofWord?_eq_none_iff.mpr unspelled]
  · rintro rfl
    by_cases hmem : '=' ∈ part
    · obtain ⟨target, word, rfl, hequals⟩ := List.eq_append_cons_of_mem hmem
      rw [ofPart_append_equals hequals]
      cases hlevel : Level.ofWord? word with
      | none => exact .target hequals (Level.ofWord?_eq_none_iff.mp hlevel)
      | some l => exact .both hequals (Level.ofWord?_eq_some_iff.mp hlevel)
    · cases hlevel : Level.ofWord? part with
      | none =>
          have hunspelled := Level.ofWord?_eq_none_iff.mp hlevel
          rw [ofPart_of_unspelled hmem hunspelled]
          exact .lone hmem hunspelled
      | some l =>
          have hspelled := Level.ofWord?_eq_some_iff.mp hlevel
          rw [ofPart_of_spelledBy hspelled]
          exact .level hspelled

/-! ## One part at a time -/

theorem parts_append (a b : Text) : parts (a ++ ',' :: b) = parts a ++ parts b := by
  rw [parts, Text.split_append_cons, List.map_append, List.filter_append]
  rfl

/-- The filters of two specifications joined by a comma are those of both. -/
theorem parse_append (a b : Text) : parse (a ++ ',' :: b) = parse a ++ parse b := by
  rw [parse, parts_append, List.map_append]
  rfl

theorem parse_intercalate (specifications : List Text) :
    parse ([','].intercalate specifications) = specifications.flatMap parse := by
  induction specifications with
  | nil => rfl
  | cons a rest ih =>
      cases rest with
      | nil => rw [List.intercalate_singleton, List.flatMap_cons, List.flatMap_nil, List.append_nil]
      | cons b rest =>
          rw [List.intercalate_cons_cons, List.append_assoc, List.singleton_append, parse_append, ih]
          exact List.flatMap_cons.symm

theorem parse_eq_flatMap (specification : Text) :
    parse specification = (Text.split ',' specification).flatMap parse := by
  rw [← parse_intercalate, Text.intercalate_split]

theorem parse_of_blanks {part : Text} (h : Text.Blanks part) : parse part = [] := by
  have hcomma : ',' ∉ part := fun hc => absurd (h ',' hc) (by decide)
  rw [parse, parts, Text.split_of_not_mem hcomma, List.map_singleton, Text.trim_of_blanks h]
  rfl

theorem parse_of_part {part : Text} (hcomma : ',' ∉ part) (h : ¬ Text.Blanks part) :
    parse part = [ofPart (Text.trim part)] := by
  have hne : Text.trim part ≠ [] := mt Text.trim_eq_nil_iff.mp h
  rw [parse, parts, Text.split_of_not_mem hcomma, List.map_singleton,
    List.filter_singleton, decide_eq_true hne]
  rfl

end EventFilter

end Datestamp
