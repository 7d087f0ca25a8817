import Datestamp.Placeholder

/-!
# Templates

A template is a text in which `%` starts a placeholder, and `%%` stands for a percent sign. It is
first read as a list of segments, and each segment is then filled in from the fields; the leftmost
segment that cannot be filled in decides the fault.
-/

namespace Datestamp.Template

/-- A segment of a template. A placeholder that cannot be read ends the reading. -/
inductive Segment where
  | char (c : Char)
  | placeholder (p : Placeholder)
  | malformed
deriving DecidableEq, Repr

/-- The segments of a template, from left to right. -/
def segments : Text → List Segment
  | [] => []
  | '%' :: '%' :: rest => .char '%' :: segments rest
  | '%' :: body =>
    match h : Placeholder.read? body with
    | some (p, rest) =>
      have := Placeholder.length_of_read? h
      .placeholder p :: segments rest
    | none => [.malformed]
  | c :: rest => .char c :: segments rest
termination_by t => t.length

theorem segments_char {c : Char} (hc : c ≠ '%') (t : Text) :
    segments (c :: t) = .char c :: segments t := by
  rw [segments]
  · intro rest h
    exact absurd h hc
  · exact hc

theorem segments_percent (t : Text) : segments ('%' :: '%' :: t) = .char '%' :: segments t := by
  rw [segments]

theorem segments_placeholder {body rest : Text} {p : Placeholder}
    (h : Placeholder.read? body = some (p, rest)) :
    segments ('%' :: body) = .placeholder p :: segments rest := by
  rw [segments]
  · split
    · rename_i h'
      rw [h] at h'
      obtain ⟨rfl, rfl⟩ := Prod.mk.inj (Option.some.inj h')
      rfl
    · rename_i h'
      rw [h] at h'
      simp at h'
  · rintro t rfl
    simp [Placeholder.read?] at h

theorem segments_malformed {body : Text} (hp : body.head? ≠ some '%')
    (h : Placeholder.read? body = none) : segments ('%' :: body) = [.malformed] := by
  rw [segments]
  · split
    · rename_i h'
      rw [h] at h'
      simp at h'
    · rfl
  · rintro t rfl
    simp at hp

/-- The text that a segment stands for. -/
def Segment.fill (template : Text) (fs : Fields) : Segment → Except Fault Text
  | .char c => .ok [c]
  | .placeholder p => p.fill fs
  | .malformed => .error (.malformedPlaceholder template)

/-- The template with every placeholder filled in. -/
def render (template : Text) (fs : Fields) : Except Fault Text :=
  ((segments template).mapM (Segment.fill template fs)).map List.flatten

end Datestamp.Template
