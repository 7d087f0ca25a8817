import Datestamp.Format.Reading
import Datestamp.Proofs.Format.Pieces
import Datestamp.Proofs.Template.Outcome
import Datestamp.Stamp

/-!
# A compiled format means what it says

The template of a format goes through an escaped intermediate text, and this file shows that nothing
is lost or made up on the way. The template of each token reads as what the token stands for, be it
a run of characters or a directive, and such readings can be put side by side. So the template of
every format reads through, to the meaning of the format, and rendering it cannot fail.
-/

namespace Datestamp

variable {fs : Fields}

namespace Template

/-! ## Placeholders of the compiler -/

/-- A placeholder in its shortest form reads as the value of its field. -/
theorem ReadsAs.print {p : Placeholder} {f : Field} (named : f.name = p.name)
    (suits : p.Suits (fs.value f)) (narrow : p.width ≤ 65535) :
    ReadsAs fs ('%' :: p.print) (p.format (fs.value f)) := by
  have hword : p.width ≤ Placeholder.maxWord := Nat.le_trans narrow (by decide)
  have hspell : p.Spells p.print :=
    Placeholder.spells_print (named ▸ f.closing_not_mem_name) hword
  have h : ReadsAs fs ('%' :: (p.print ++ [])) (p.format (fs.value f) ++ []) :=
    .placeholder hspell named suits (.inl narrow) .nil
  simpa using h

theorem ReadsAs.timePlaceholder (f : TimeField) :
    ReadsAs fs ('%' :: (Directive.timePlaceholder f).print) (fs.timeText f) := by
  have h : ReadsAs fs ('%' :: (Directive.timePlaceholder f).print)
      ((Directive.timePlaceholder f).format (fs.value (.time f))) := by
    apply ReadsAs.print
    · exact (Directive.name_timePlaceholder f).symm
    · cases f <;> simp [Placeholder.Suits, Directive.timePlaceholder, Fields.value,
        Fields.timeValue]
    · exact Nat.le_trans (Directive.width_timePlaceholder_le f) (by decide)
  have hformat : (Directive.timePlaceholder f).format (fs.value (.time f)) = fs.timeText f := by
    cases f <;> simp [Directive.timePlaceholder, Placeholder.format, Fields.value,
      Fields.timeValue, Fields.timeText, Placeholder.blankPadded]
  exact hformat ▸ h

theorem ReadsAs.partPlaceholder (kind : OffsetKind) (part : OffsetPart) :
    ReadsAs fs ('%' :: (Directive.partPlaceholder kind part).print)
      ((fs.offset kind).partText part) := by
  have h : ReadsAs fs ('%' :: (Directive.partPlaceholder kind part).print)
      ((Directive.partPlaceholder kind part).format (fs.value (.offset kind part))) := by
    apply ReadsAs.print
    · exact (Directive.name_partPlaceholder kind part).symm
    · cases part <;> simp [Placeholder.Suits, Directive.partPlaceholder, Fields.value,
        ClockOffset.part]
    · exact Nat.le_trans (Directive.width_partPlaceholder_le kind part) (by decide)
  have hformat : (Directive.partPlaceholder kind part).format (fs.value (.offset kind part)) =
      (fs.offset kind).partText part := by
    cases part <;> simp [Directive.partPlaceholder, Placeholder.format, Fields.value,
      ClockOffset.part, ClockOffset.partText, Placeholder.blankPadded]
  exact hformat ▸ h

end Template

namespace Format

open Template

/-! ## Tokens -/

/-- A run of characters with its percent signs doubled reads as itself. -/
theorem readsAs_doublePercents (run : Text) : ReadsAs fs (doublePercents run) run := by
  induction run with
  | nil => exact .nil
  | cons c run ih =>
      by_cases hc : c = '%'
      · subst hc
        exact .percent ih
      · rw [doublePercents_char hc]
        exact .char hc ih

theorem readsAs_template (d : Directive) : ReadsAs fs d.template (d.text fs) := by
  cases d with
  | percent => exact .percent .nil
  | time f =>
      have h : ReadsAs fs _ _ := ReadsAs.timePlaceholder f
      simpa [Directive.template, Directive.placeholders, Directive.text] using h
  | offset kind part =>
      cases part with
      | some part =>
          have h : ReadsAs fs _ _ := ReadsAs.partPlaceholder kind part
          simpa [Directive.template, Directive.placeholders, Directive.text] using h
      | none =>
          -- a whole offset is three placeholders, one after another
          have hsign : ReadsAs fs _ _ := ReadsAs.partPlaceholder kind .sign
          have hhour : ReadsAs fs _ _ := ReadsAs.partPlaceholder kind .hour
          have hminute : ReadsAs fs _ _ := ReadsAs.partPlaceholder kind .minute
          have h := hsign.append (hhour.append hminute)
          simpa [Directive.template, Directive.placeholders, Directive.text] using h

theorem readsAs_token (token : Token) :
    ReadsAs fs token.template (token.meaning fs) := by
  cases token with
  | literal run => exact readsAs_doublePercents run
  | directive d => exact readsAs_template d

/-- The template of a format reads as the meaning of the format. -/
theorem readsAs_compile (fs : Fields) (format : Text) :
    ReadsAs fs (compile format) (meaning fs format) := by
  unfold compile meaning
  induction tokens format with
  | nil => exact .nil
  | cons token tokens ih =>
      rw [List.flatMap_cons, List.flatMap_cons]
      exact (readsAs_token token).append ih

theorem render_compile (fs : Fields) (format : Text) :
    render (compile format) fs = .ok (meaning fs format) :=
  render_eq_ok (readsAs_compile fs format)

end Format

/-! ## The meaning, one piece at a time -/

namespace Format

variable (fs : Fields)

theorem meaning_nil : meaning fs [] = [] := by
  rw [meaning, tokens, pieces_nil]
  rfl

theorem meaning_char_of_ne {c : Char} (hc : c ≠ '%') (t : Text) :
    meaning fs (c :: t) = c :: meaning fs t := by
  rw [meaning, tokens, pieces_char_of_ne hc, join, flatMap_consChar fun _ _ => rfl]
  rfl

theorem meaning_token_append (d : Directive) (t : Text) :
    meaning fs (d.token ++ t) = d.text fs ++ meaning fs t := by
  rw [meaning, tokens, pieces_token_append, join, List.flatMap_cons]
  rfl

/-- A format that is one directive means what the directive shows. -/
theorem meaning_token (d : Directive) : meaning fs d.token = d.text fs := by
  have h := meaning_token_append fs d []
  rwa [List.append_nil, meaning_nil, List.append_nil] at h

end Format

/-! ## The line of a stamp -/

theorem stampLine_eq_map (format : Text) (time : LocalTime) (zone : Zone) :
    stampLine format time zone =
      (Fields.of time zone).map fun fs => Format.meaning fs format := by
  unfold stampLine
  cases Fields.of time zone with
  | error fault => rfl
  | ok fs => exact Format.render_compile fs format

theorem stampLine_of_fields {time : LocalTime} {zone : Zone} {fs : Fields}
    (h : Fields.of time zone = .ok fs) (format : Text) :
    stampLine format time zone = .ok (Format.meaning fs format) := by
  rw [stampLine_eq_map, h]
  rfl

/-- **The line of a stamp is the meaning of its format.** A format has exactly one reading from left
to right that takes the longest directive wherever one starts. Whatever the fields are, its template
is filled in without a fault, to what the tokens of that reading stand for; so a line fails only
where the fields themselves cannot be built. -/
theorem stampLine_is_meaning (format : Text) (time : LocalTime) (zone : Zone) :
    (∀ ps, Format.Munch format ps ↔ ps = Format.pieces format) ∧
      (∀ fs, Template.render (Format.compile format) fs =
        .ok ((Format.join (Format.pieces format)).flatMap (Format.Token.meaning fs))) ∧
      stampLine format time zone = (Fields.of time zone).map fun fs =>
        (Format.join (Format.pieces format)).flatMap (Format.Token.meaning fs) := by
  refine ⟨?_, ?_, ?_⟩
  · intro ps
    exact Format.munch_iff
  · intro fs
    exact Format.render_compile fs format
  · exact stampLine_eq_map format time zone

end Datestamp
