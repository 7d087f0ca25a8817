import Mathlib.Data.List.Forall2
import Datestamp.Proofs.EventFilter.Reading

/-!
# Filters and their texts

The filters that some specification lists are those of a level alone, and those whose target can stand
at the head of a part (`Expressible`). `EventFilter.SpelledBy` says how a filter is written, and each
list of such filters is read back from its text, in whatever case the levels are written and whatever
blanks are put around the parts (`filter_lists_round_trip`).
-/

namespace Datestamp

namespace EventFilter

/-! ## Filters that a specification can list -/

/-- A level alone, or a target that can stand before an equals sign at the head of a part. -/
inductive Expressible : EventFilter → Prop
  | level (l : Level) : Expressible ⟨none, some l⟩
  | target {target : Text} (level : Option Level) (comma : ',' ∉ target) (equals : '=' ∉ target)
      (start : ∀ c ∈ target.head?, Text.isBlank c = false) : Expressible ⟨some target, level⟩

/-- How a filter is written: its level, or its target with an equals sign and its level, if any. -/
inductive SpelledBy : EventFilter → Text → Prop
  | level {l : Level} {word : Text} (spelled : l.SpelledBy word) : SpelledBy ⟨none, some l⟩ word
  | both {target word : Text} {l : Level} (spelled : l.SpelledBy word) :
      SpelledBy ⟨some target, some l⟩ (target ++ '=' :: word)
  | target (target : Text) : SpelledBy ⟨some target, none⟩ (target ++ ['='])

/-- A filter as it is written, with blanks around it. -/
def SpelledWithin (f : EventFilter) (part : Text) : Prop :=
  ∃ before written after, Text.Blanks before ∧ f.SpelledBy written ∧ Text.Blanks after ∧
    part = before ++ written ++ after

theorem spelledBy_print {f : EventFilter} (h : Expressible f) : f.SpelledBy f.print := by
  cases h with
  | level l => exact .level l.spelledBy_name
  | @target target level _ _ _ =>
      cases level with
      | none => exact .target target
      | some l => exact .both l.spelledBy_name

variable {f : EventFilter} {written : Text}

theorem SpelledBy.within (h : f.SpelledBy written) : f.SpelledWithin written :=
  ⟨[], written, [], nofun, h, nofun, (List.append_nil written).symm⟩

theorem SpelledBy.readAs (h : f.SpelledBy written) (hf : Expressible f) : ReadAs written f := by
  cases h with
  | level spelled => exact .level spelled
  | both spelled =>
      cases hf with
      | target level comma equals start => exact .both equals spelled
  | target target =>
      cases hf with
      | target level comma equals start => exact .target equals Level.not_spelledBy_nil

/-! ## A spelled filter is a part of its own -/

/-- A text that is one part of a specification, with no blanks around it. -/
structure StandsAlone (part : Text) : Prop where
  trimmed : Text.Trimmed part
  comma : ',' ∉ part
  ne_nil : part ≠ []

theorem standsAlone_word {l : Level} {word : Text} (h : l.SpelledBy word) : StandsAlone word where
  trimmed := by
    constructor
    · exact fun c hc => (h.letter (List.mem_of_mem_head? hc)).1
    · exact fun c hc => (h.letter (List.mem_of_mem_getLast? hc)).1
  comma := fun hc => (h.letter hc).2.1 rfl
  ne_nil := by
    rintro rfl
    exact l.not_spelledBy_nil h

theorem standsAlone_append_equals {target word : Text} (hcomma : ',' ∉ target)
    (hstart : ∀ c ∈ target.head?, Text.isBlank c = false)
    (hword : ∀ c ∈ word, Text.isBlank c = false ∧ c ≠ ',') :
    StandsAlone (target ++ '=' :: word) where
  trimmed := by
    constructor
    · intro c hc
      cases target with
      | nil =>
          obtain rfl := Option.some.inj hc
          decide
      | cons d target => exact hstart c hc
    · intro c hc
      rw [List.getLast?_append_of_ne_nil _ (List.cons_ne_nil '=' word)] at hc
      rcases List.mem_cons.mp (List.mem_of_mem_getLast? hc) with rfl | hc
      · decide
      · exact (hword c hc).1
  comma := by
    intro hc
    rcases List.mem_append.mp hc with hc | hc
    · exact hcomma hc
    · rcases List.mem_cons.mp hc with hc | hc
      · exact absurd hc (by decide)
      · exact (hword ',' hc).2 rfl
  ne_nil := by simp

theorem SpelledBy.standsAlone (h : f.SpelledBy written) (hf : Expressible f) :
    StandsAlone written := by
  cases h with
  | level spelled => exact standsAlone_word spelled
  | both spelled =>
      cases hf with
      | target level comma equals start =>
          refine standsAlone_append_equals comma start fun c hc => ?_
          obtain ⟨hblank, hcomma, -⟩ := spelled.letter hc
          exact ⟨hblank, hcomma⟩
  | target target =>
      cases hf with
      | target level comma equals start => exact standsAlone_append_equals comma start nofun

/-- A spelled filter is read back, whatever blanks are put around it. -/
theorem SpelledWithin.parse {part : Text} (h : f.SpelledWithin part) (hf : Expressible f) :
    parse part = [f] := by
  obtain ⟨before, written, after, hbefore, hwritten, hafter, rfl⟩ := h
  have halone := hwritten.standsAlone hf
  have htrim : Text.trim (before ++ written ++ after) = written :=
    Text.trim_eq_iff.mpr ⟨halone.trimmed, before, after, hbefore, hafter, rfl⟩
  have hcomma : ',' ∉ before ++ written ++ after := by
    rw [List.mem_append, List.mem_append]
    rintro ((hc | hc) | hc)
    · exact absurd (hbefore ',' hc) (by decide)
    · exact halone.comma hc
    · exact absurd (hafter ',' hc) (by decide)
  have hvisible : ¬ Text.Blanks (before ++ written ++ after) := by
    rw [← Text.trim_eq_nil_iff, htrim]
    exact halone.ne_nil
  rw [parse_of_part hcomma hvisible, htrim, readAs_iff.mp (hwritten.readAs hf)]

theorem parse_of_spelledWithin {filters : List EventFilter} {parts : List Text}
    (hfilters : ∀ f ∈ filters, Expressible f) (h : List.Forall₂ SpelledWithin filters parts) :
    parse ([','].intercalate parts) = filters := by
  rw [parse_intercalate]
  induction h with
  | nil => rfl
  | @cons f part filters parts hpart _ ih =>
      obtain ⟨hf, hrest⟩ := List.forall_mem_cons.mp hfilters
      rw [List.flatMap_cons, hpart.parse hf, ih hrest]
      rfl

/-! ## Nothing else is listed -/

theorem ReadAs.expressible {part : Text} (h : ReadAs part f) (hcomma : ',' ∉ part)
    (hstart : ∀ c ∈ part.head?, Text.isBlank c = false) : Expressible f := by
  have hhead : ∀ target word : Text, part = target ++ '=' :: word →
      ∀ c ∈ target.head?, Text.isBlank c = false := by
    rintro target word rfl c hc
    apply hstart
    rw [List.head?_append, Option.mem_def.mp hc]
    rfl
  cases h with
  | level spelled => exact .level _
  | lone equals unspelled => exact .target none hcomma equals hstart
  | @both target word l equals spelled =>
      exact .target _ (fun hc => hcomma (List.mem_append_left _ hc)) equals (hhead _ _ rfl)
  | target equals unspelled =>
      exact .target _ (fun hc => hcomma (List.mem_append_left _ hc)) equals (hhead _ _ rfl)

theorem expressible_of_mem_parse {specification : Text} (h : f ∈ parse specification) :
    Expressible f := by
  rw [parse_eq_flatMap] at h
  obtain ⟨part, hpart, hf⟩ := List.mem_flatMap.mp h
  by_cases hblank : Text.Blanks part
  · rw [parse_of_blanks hblank] at hf
    cases hf
  · have hcomma := Text.not_mem_of_mem_split hpart
    rw [parse_of_part hcomma hblank] at hf
    have hread := readAs_iff.mpr (List.mem_singleton.mp hf).symm
    exact hread.expressible (fun hc => hcomma (Text.mem_of_mem_trim hc)) (Text.trimmed_trim part).start

/-! ## Lists of filters and their texts -/

theorem spelledBy_print_all {filters : List EventFilter} (h : ∀ f ∈ filters, Expressible f) :
    List.Forall₂ SpelledBy filters (filters.map print) := by
  rw [List.forall₂_map_right_iff, List.forall₂_same]
  exact fun f hf => spelledBy_print (h f hf)

/-- **Lists of filters and their texts.** The lists that some specification has are those of
expressible filters. Each of them is read back from its text: its filters as they are written, the
levels in any case, with commas between them and any blanks around them. The filters of two
specifications joined by a comma are the filters of both. -/
theorem filter_lists_round_trip :
    (∀ filters, (∃ specification, parse specification = filters) ↔
        ∀ f ∈ filters, Expressible f) ∧
      (∀ filters, (∀ f ∈ filters, Expressible f) →
        List.Forall₂ SpelledBy filters (filters.map print) ∧
          ∀ parts, List.Forall₂ SpelledWithin filters parts →
            parse ([','].intercalate parts) = filters) ∧
      ∀ a b, parse (a ++ ',' :: b) = parse a ++ parse b := by
  refine ⟨?_, ?_, parse_append⟩
  · intro filters
    constructor
    · rintro ⟨specification, rfl⟩ f hf
      exact expressible_of_mem_parse hf
    · intro h
      have hprint := (spelledBy_print_all h).imp fun _ _ => SpelledBy.within
      exact ⟨_, parse_of_spelledWithin h hprint⟩
  · intro filters h
    exact ⟨spelledBy_print_all h, fun parts => parse_of_spelledWithin h⟩

/-- A level in mixed case between blanks, an empty target, a target that is a word for a level, and
one with blanks inside and at its end. -/
theorem filter_lists_round_trip_in_corners :
    parse " \tWarning\u3000,=DEBUG, info=\n,a b =tRaCe".toList =
      [⟨none, some .warn⟩, ⟨some [], some .debug⟩, ⟨some "info".toList, none⟩,
        ⟨some "a b ".toList, some .trace⟩] := by
  have hfilters : ∀ f ∈ [⟨none, some .warn⟩, ⟨some [], some .debug⟩, ⟨some "info".toList, none⟩,
      (⟨some "a b ".toList, some .trace⟩ : EventFilter)], Expressible f := by
    simp only [List.forall_mem_cons]
    refine ⟨.level .warn, .target (some .debug) nofun nofun nofun,
      .target none (by decide) (by decide) ?_, .target (some .trace) (by decide) (by decide) ?_, nofun⟩
    · rintro c ⟨⟩
      decide
    · rintro c ⟨⟩
      decide
  refine (filter_lists_round_trip.2.1 _ hfilters).2 [" \tWarning\u3000".toList, "=DEBUG".toList,
    " info=\n".toList, "a b =tRaCe".toList] ?_
  refine .cons ?_ (.cons ?_ (.cons ?_ (.cons ?_ .nil)))
  · have hword : Level.warn.SpelledBy "Warning".toList := by
      unfold Level.SpelledBy
      decide
    exact ⟨" \t".toList, _, "\u3000".toList, by decide, .level hword, by decide, rfl⟩
  · exact SpelledBy.within (.both Level.debug.spelledBy_name)
  · exact ⟨" ".toList, _, "\n".toList, by decide, .target "info".toList, by decide, rfl⟩
  · have hword : Level.trace.SpelledBy "tRaCe".toList := by
      unfold Level.SpelledBy
      decide
    exact SpelledBy.within (.both hword)

end EventFilter

end Datestamp
