import Datestamp.Proofs.EventFilter.Reading

/-!
# Which events a specification accepts

A specification lists its parts that are not blank. If it lists none it accepts every event; otherwise
it accepts what one of its parts accepts alone. So it comes down to the set of its parts: neither
their order nor their number counts, and a further part takes nothing away unless it is the first.
What is accepted at one level is accepted at every level that is more severe, and for every target
that goes on from there (`accepted_by_parts`).
-/

namespace Datestamp

namespace EventFilter

variable {specification other part : Text} {f : EventFilter} {level severe : Level}
  {target extended : Text}

/-! ## What one filter wants -/

/-- The events that a filter wants: those that are not less severe than its level, and whose target
starts with its own. -/
structure Wants (f : EventFilter) (level : Level) (target : Text) : Prop where
  level : ∀ limit, f.level = some limit → level.rank ≤ limit.rank
  target : ∀ lead, f.target = some lead → lead <+: target

theorem admits_iff : f.admits level target = true ↔ f.Wants level target := by
  obtain ⟨lead, limit⟩ := f
  rw [admits, Bool.and_eq_true]
  constructor
  · rintro ⟨hlevel, htarget⟩
    constructor
    · rintro _ rfl
      exact of_decide_eq_true hlevel
    · rintro _ rfl
      exact List.isPrefixOf_iff_prefix.mp htarget
  · rintro ⟨hlevel, htarget⟩
    constructor
    · cases limit with
      | none => rfl
      | some limit => exact decide_eq_true (hlevel limit rfl)
    · cases lead with
      | none => rfl
      | some lead => exact List.isPrefixOf_iff_prefix.mpr (htarget lead rfl)

theorem Wants.mono (h : f.Wants level target) (hlevel : severe.rank ≤ level.rank)
    (htarget : target <+: extended) : f.Wants severe extended where
  level := fun limit hlimit => Nat.le_trans hlevel (h.level limit hlimit)
  target := fun lead hlead => (h.target lead hlead).trans htarget

/-! ## What a specification lists -/

/-- A part of a specification, between commas, that is not blank. -/
def Lists (specification part : Text) : Prop :=
  part ∈ Text.split ',' specification ∧ ¬ Text.Blanks part

theorem parse_of_lists (h : Lists specification part) : parse part = [ofPart (Text.trim part)] :=
  parse_of_part (Text.not_mem_of_mem_split h.1) h.2

theorem mem_parse_iff :
    f ∈ parse specification ↔ ∃ part, Lists specification part ∧ ofPart (Text.trim part) = f := by
  rw [parse_eq_flatMap, List.mem_flatMap]
  constructor
  · rintro ⟨part, hpart, hf⟩
    have hvisible : ¬ Text.Blanks part := by
      intro hblank
      rw [parse_of_blanks hblank] at hf
      cases hf
    refine ⟨part, ⟨hpart, hvisible⟩, ?_⟩
    rw [parse_of_lists ⟨hpart, hvisible⟩] at hf
    exact (List.mem_singleton.mp hf).symm
  · rintro ⟨part, hlists, rfl⟩
    refine ⟨part, hlists.1, ?_⟩
    rw [parse_of_lists hlists]
    exact List.mem_singleton_self _

theorem parse_eq_nil_iff : parse specification = [] ↔ ∀ part, ¬ Lists specification part := by
  rw [List.eq_nil_iff_forall_not_mem]
  constructor
  · intro h part hlists
    exact h _ (mem_parse_iff.mpr ⟨part, hlists, rfl⟩)
  · intro h f hf
    obtain ⟨part, hlists, -⟩ := mem_parse_iff.mp hf
    exact h part hlists

/-! ## What it accepts -/

/-- A specification accepts the events of a level and a target. -/
def Accepted (specification : Text) (level : Level) (target : Text) : Prop :=
  accepts (parse specification) level target = true

theorem accepted_iff : Accepted specification level target ↔
    parse specification = [] ∨ ∃ f ∈ parse specification, f.Wants level target := by
  simp only [Accepted, accepts, Bool.or_eq_true, List.isEmpty_iff, List.any_eq_true, admits_iff]

/-- A part alone accepts what the filter wants that it describes. -/
theorem accepted_of_lists (h : Lists specification part) :
    Accepted part level target ↔ (ofPart (Text.trim part)).Wants level target := by
  rw [accepted_iff, parse_of_lists h]
  simp

theorem accepted_of_none (h : ∀ part, ¬ Lists specification part) :
    Accepted specification level target :=
  accepted_iff.mpr (.inl (parse_eq_nil_iff.mpr h))

/-- A specification that lists anything accepts what one of its parts accepts alone. -/
theorem accepted_iff_of_lists (h : ∃ part, Lists specification part) :
    Accepted specification level target ↔
      ∃ part, Lists specification part ∧ Accepted part level target := by
  have hsome : ¬ parse specification = [] := by
    rw [parse_eq_nil_iff]
    exact not_forall_not.mpr h
  rw [accepted_iff, or_iff_right hsome]
  constructor
  · rintro ⟨f, hf, hwants⟩
    obtain ⟨part, hlists, rfl⟩ := mem_parse_iff.mp hf
    exact ⟨part, hlists, (accepted_of_lists hlists).mpr hwants⟩
  · rintro ⟨part, hlists, haccepted⟩
    exact ⟨_, mem_parse_iff.mpr ⟨part, hlists, rfl⟩, (accepted_of_lists hlists).mp haccepted⟩

theorem Accepted.of_more_parts (h : Accepted specification level target)
    (hsome : ∃ part, Lists specification part)
    (hmore : ∀ part, Lists specification part → Lists other part) : Accepted other level target := by
  obtain ⟨part, hlists, haccepted⟩ := (accepted_iff_of_lists hsome).mp h
  exact (accepted_iff_of_lists ⟨part, hmore part hlists⟩).mpr ⟨part, hmore part hlists, haccepted⟩

/-- Which parts are listed decides all. -/
theorem Accepted.of_same_parts (h : Accepted specification level target)
    (hsame : ∀ part, Lists specification part ↔ Lists other part) : Accepted other level target := by
  by_cases hsome : ∃ part, Lists specification part
  · exact h.of_more_parts hsome fun part => (hsame part).mp
  · exact accepted_of_none fun part hlists => hsome ⟨part, (hsame part).mpr hlists⟩

theorem Accepted.mono (h : Accepted specification level target) (hlevel : severe.rank ≤ level.rank)
    (htarget : target <+: extended) : Accepted specification severe extended := by
  rcases accepted_iff.mp h with hnil | ⟨f, hf, hwants⟩
  · exact accepted_iff.mpr (.inl hnil)
  · exact accepted_iff.mpr (.inr ⟨f, hf, hwants.mono hlevel htarget⟩)

/-- **Which events a specification accepts.** A specification that lists no part accepts every event.
Any other accepts what one of its parts accepts alone, and a part alone accepts what the filter wants
that it is read as. So specifications with the same parts accept the same, in whatever order and
however often these stand and whatever blank parts stand between them; and where a part is listed,
further parts take nothing away. An event that is accepted is accepted at every level that is more
severe and for every target that extends its own. -/
theorem accepted_by_parts :
    (∀ specification level target, (∀ part, ¬ Lists specification part) →
        Accepted specification level target) ∧
      (∀ specification level target, (∃ part, Lists specification part) →
        (Accepted specification level target ↔
          ∃ part, Lists specification part ∧ Accepted part level target)) ∧
      (∀ specification part, Lists specification part → ∃ f, ReadAs (Text.trim part) f ∧
        ∀ level target, Accepted part level target ↔ f.Wants level target) ∧
      (∀ specification other level target,
        (∀ part, Lists specification part ↔ Lists other part) →
        (Accepted specification level target ↔ Accepted other level target)) ∧
      (∀ specification other level target, (∃ part, Lists specification part) →
        (∀ part, Lists specification part → Lists other part) →
        Accepted specification level target → Accepted other level target) ∧
      ∀ specification level severe target extended, severe.rank ≤ level.rank →
        target <+: extended → Accepted specification level target →
        Accepted specification severe extended := by
  refine ⟨?_, ?_, ?_, ?_, ?_, ?_⟩
  · intro specification level target hnone
    exact accepted_of_none hnone
  · intro specification level target hsome
    exact accepted_iff_of_lists hsome
  · intro specification part hlists
    exact ⟨_, readAs_iff.mpr rfl, fun level target => accepted_of_lists hlists⟩
  · intro specification other level target hsame
    exact ⟨fun h => h.of_same_parts hsame, fun h => h.of_same_parts fun part => (hsame part).symm⟩
  · intro specification other level target hsome hmore h
    exact h.of_more_parts hsome hmore
  · intro specification level severe target extended hlevel htarget h
    exact h.mono hlevel htarget

/-- Two parts in the other order, one of them twice, and with other blank parts between them. What is
accepted goes over, to a more severe level and a longer target; an event that neither part wants is
rejected. -/
theorem accepted_by_parts_reordered :
    let specification := "stamp=debug, ,INFO".toList
    let other := ",INFO,stamp=debug,\t,INFO".toList
    (∀ part, Lists specification part ↔ Lists other part) ∧
      Accepted specification .debug "stamp".toList ∧
      Accepted other .info "stamp::format".toList ∧ ¬ Accepted other .debug "render".toList := by
  intro specification other
  have hover : ∀ part ∈ Text.split ',' specification, ¬ Text.Blanks part →
      part ∈ Text.split ',' other := by decide
  have hback : ∀ part ∈ Text.split ',' other, ¬ Text.Blanks part →
      part ∈ Text.split ',' specification := by decide
  have hsame : ∀ part, Lists specification part ↔ Lists other part := by
    intro part
    constructor
    · rintro ⟨hmem, hvisible⟩
      exact ⟨hover part hmem hvisible, hvisible⟩
    · rintro ⟨hmem, hvisible⟩
      exact ⟨hback part hmem hvisible, hvisible⟩
  obtain ⟨-, -, -, same, -, severity⟩ := accepted_by_parts
  have haccepted : Accepted specification .debug "stamp".toList := by
    unfold Accepted
    decide
  refine ⟨hsame, haccepted, ?_, ?_⟩
  · exact severity other .debug .info "stamp".toList "stamp::format".toList (by decide)
      ⟨"::format".toList, rfl⟩ ((same _ _ _ _ hsame).mp haccepted)
  · unfold Accepted
    decide

end EventFilter

end Datestamp
