import Datestamp.Format.Expansion
import Datestamp.Proofs.Placeholder.Spelling
import Datestamp.Template

/-!
# What a template asks for

A template is read back as single steps: a character to print, or a field to show. This takes no
fields and no knowledge of the format behind the template, and on a compiled template it gives the
expansion of that format (`steps_compile`). The expansion makes up the template in turn
(`compile_eq_flatMap`), so two formats share a template exactly if they share their expansion.

Reading back works because the parts of a template keep apart: a doubled percent sign is never the
start of a placeholder, a placeholder ends at its letter, and whatever a run holds, be it the text
of a placeholder, goes into the template with its percent signs doubled.
-/

namespace Datestamp

/-- The directive that shows one field. -/
def Directive.ofField : Field → Directive
  | .time f => .time f
  | .offset kind part => .offset kind (some part)

namespace Template

/-! ## Steps of a template -/

def Segment.step? : Segment → Option Format.Piece
  | .char c => some (.char c)
  | .placeholder p => (Field.ofName? p.name).map fun f => .directive (.ofField f)
  | .malformed => none

/-- The single steps that a template asks for. -/
def steps (template : Text) : List Format.Piece := (segments template).filterMap Segment.step?

theorem steps_nil : steps [] = [] := by
  rw [steps, segments]
  rfl

theorem steps_char {c : Char} (hc : c ≠ '%') (t : Text) : steps (c :: t) = .char c :: steps t := by
  rw [steps, segments_char hc]
  rfl

theorem steps_percent (t : Text) : steps ('%' :: '%' :: t) = .char '%' :: steps t := by
  rw [steps, segments_percent]
  rfl

/-- A placeholder in its shortest form asks for the field that it names. -/
theorem steps_print {p : Placeholder} {f : Field} (named : p.name = f.name)
    (word : p.width ≤ Placeholder.maxWord) (t : Text) :
    steps ('%' :: (p.print ++ t)) = .directive (.ofField f) :: steps t := by
  have hspell : p.Spells p.print :=
    Placeholder.spells_print (named ▸ f.closing_not_mem_name) word
  have hstep : Segment.step? (.placeholder p) = some (.directive (.ofField f)) := by
    rw [Segment.step?, named, Field.ofName?_name]
    rfl
  rw [steps, segments_placeholder (Placeholder.read?_append_of_spells hspell t),
    List.filterMap_cons_some hstep]
  rfl

theorem steps_timePlaceholder (f : TimeField) (t : Text) :
    steps ('%' :: ((Directive.timePlaceholder f).print ++ t)) = .directive (.time f) :: steps t :=
  steps_print (f := .time f) (Directive.name_timePlaceholder f)
    (Nat.le_trans (Directive.width_timePlaceholder_le f) (by decide)) t

theorem steps_partPlaceholder (kind : OffsetKind) (part : OffsetPart) (t : Text) :
    steps ('%' :: ((Directive.partPlaceholder kind part).print ++ t)) =
      .directive (.offset kind (some part)) :: steps t :=
  steps_print (f := .offset kind part) (Directive.name_partPlaceholder kind part)
    (Nat.le_trans (Directive.width_partPlaceholder_le kind part) (by decide)) t

end Template

namespace Format

open Template

/-! ## A compiled template asks for the expansion -/

theorem steps_doublePercents (run t : Text) :
    steps (doublePercents run ++ t) = run.map .char ++ steps t := by
  induction run with
  | nil => rfl
  | cons c run ih =>
      by_cases hc : c = '%'
      · subst hc
        show steps ('%' :: '%' :: (doublePercents run ++ t)) = _
        rw [steps_percent, ih]
        rfl
      · rw [doublePercents_char hc, List.cons_append, steps_char hc, ih]
        rfl

theorem steps_template (token : Token) (t : Text) :
    steps (token.template ++ t) = token.expand ++ steps t := by
  match token with
  | .literal run => exact steps_doublePercents run t
  | .directive .percent => exact steps_percent t
  | .directive (.time f) =>
      have h := steps_timePlaceholder f t
      simpa [Token.template, Directive.template, Directive.placeholders, Token.expand] using h
  | .directive (.offset kind (some part)) =>
      have h := steps_partPlaceholder kind part t
      simpa [Token.template, Directive.template, Directive.placeholders, Token.expand] using h
  | .directive (.offset kind none) =>
      -- a whole offset is three placeholders, one after another
      have htemplate : Token.template (.directive (.offset kind none)) ++ t =
          '%' :: ((Directive.partPlaceholder kind .sign).print ++
          '%' :: ((Directive.partPlaceholder kind .hour).print ++
          '%' :: ((Directive.partPlaceholder kind .minute).print ++ t))) := by
        simp [Token.template, Directive.template, Directive.placeholders]
      rw [htemplate, steps_partPlaceholder, steps_partPlaceholder, steps_partPlaceholder]
      rfl

/-- The expansion of a format can be read back from its template. -/
theorem steps_compile (format : Text) : steps (compile format) = expand format := by
  unfold compile expand
  induction tokens format with
  | nil => exact steps_nil
  | cons token tokens ih => rw [List.flatMap_cons, List.flatMap_cons, steps_template, ih]

/-! ## The expansion makes up the template -/

/-- The template of a single step. -/
def Piece.template : Piece → Text
  | .char c => doublePercents [c]
  | .directive d => d.template

theorem flatMap_template_expand (token : Token) :
    token.expand.flatMap Piece.template = token.template := by
  match token with
  | .literal run =>
      rw [Token.expand, List.flatMap_map]
      show run.flatMap (fun c => doublePercents [c]) = doublePercents run
      simp only [doublePercents, List.flatMap_singleton]
  | .directive .percent => rfl
  | .directive (.time f) => exact List.flatMap_singleton _ _
  | .directive (.offset kind (some part)) => exact List.flatMap_singleton _ _
  | .directive (.offset kind none) =>
      simp [Token.expand, Piece.template, Token.template, Directive.template,
        Directive.placeholders]

theorem compile_eq_flatMap (format : Text) :
    compile format = (expand format).flatMap Piece.template := by
  rw [expand, List.flatMap_assoc, compile]
  congr 1
  funext token
  exact (flatMap_template_expand token).symm

/-- **A template keeps all of its format but the spelling.** Two formats have the same template
exactly if they ask for the same, step by step. -/
theorem compile_eq_compile_iff (f g : Text) : compile f = compile g ↔ expand f = expand g := by
  constructor
  · intro h
    rw [← steps_compile f, ← steps_compile g, h]
  · intro h
    rw [compile_eq_flatMap, compile_eq_flatMap, h]

end Format

end Datestamp
