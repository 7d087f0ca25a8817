import Datestamp.Proofs.Placeholder.Spelling
import Datestamp.Template

/-!
# What becomes of a template

Two relations say what a template comes to, without the reader. `ReadsAs` reads a text from left to
right as plain characters, doubled percent signs and placeholders that can be filled in, and
collects what they come to. `Offends` says what is wrong with a percent sign that starts none of
these. Rendering succeeds on exactly the texts that read through, and otherwise fails at the first
offending percent sign (`render_outcome`).

One induction carries both directions: rendering passes over a text that reads through and goes on
with what follows it (`renderRest_append`). Together with the fact that every text either reads
through or runs into an offending percent sign (`Settled.all`), this leaves no third outcome.
-/

namespace Datestamp

namespace Placeholder

/-! ## Values that a placeholder can write -/

/-- Only a number is written as a number. -/
def Suits (p : Placeholder) (v : Value) : Prop :=
  p.conversion = .number → ∃ n, v = .number n

/-- A width of at most 65535. One more is allowed for a negative number with the zero flag, since
its sign is written apart. -/
def Fits (p : Placeholder) (v : Value) : Prop :=
  p.width ≤ 65535 ∨
    p.width = 65536 ∧ p.zeroPad = true ∧ p.conversion = .number ∧
      ∃ n : Int, n < 0 ∧ v = .number n

theorem writerWidth_le_iff (p : Placeholder) (v : Value) :
    p.writerWidth v ≤ maxWidth ↔ p.Fits v := by
  cases v with
  | text t => simp [writerWidth, maxWidth, Fits]
  | number n =>
      simp only [writerWidth, maxWidth, Fits, Value.number.injEq]
      split
      · rename_i h
        obtain ⟨hz, hc, hn⟩ := h
        constructor
        · intro hw
          by_cases hle : p.width ≤ 65535
          · exact .inl hle
          · exact .inr ⟨by omega, hz, hc, n, hn, rfl⟩
        · rintro (hw | ⟨hw, -⟩) <;> omega
      · rename_i h
        constructor
        · exact .inl
        · rintro (hw | ⟨-, hz, hc, m, hm, rfl⟩)
          · exact hw
          · exact absurd ⟨hz, hc, hm⟩ h

theorem write_of_suits {p : Placeholder} {v : Value} (hs : p.Suits v) :
    p.write v =
      if p.writerWidth v ≤ maxWidth then .ok (p.format v) else .error .widthOutOfRange := by
  unfold write
  split
  · rename_i hc
    obtain ⟨n, hn⟩ := hs hc
    simp at hn
  · rfl

theorem write_eq_ok {p : Placeholder} {v : Value} (hs : p.Suits v) (hf : p.Fits v) :
    p.write v = .ok (p.format v) := by
  rw [write_of_suits hs, if_pos ((writerWidth_le_iff p v).mpr hf)]

theorem write_eq_notNumber {p : Placeholder} {v : Value} (hs : ¬ p.Suits v) :
    p.write v = .error (.notNumber p.name) := by
  simp only [Suits, Classical.not_imp, not_exists] at hs
  obtain ⟨hc, hn⟩ := hs
  cases v with
  | number n => exact absurd rfl (hn n)
  | text t => simp only [write, hc]

theorem write_eq_widthOutOfRange {p : Placeholder} {v : Value} (hs : p.Suits v)
    (hf : ¬ p.Fits v) : p.write v = .error .widthOutOfRange := by
  rw [write_of_suits hs, if_neg (mt (writerWidth_le_iff p v).mp hf)]

theorem fill_of_name {p : Placeholder} {f : Field} (h : f.name = p.name) (fs : Fields) :
    p.fill fs = p.write (fs.value f) := by
  rw [fill, ← h, Fields.get?_name]

theorem fill_eq_unknownField {p : Placeholder} (h : ∀ f : Field, f.name ≠ p.name) (fs : Fields) :
    p.fill fs = .error (.unknownField p.name) := by
  rw [fill, Fields.get?_eq_none_iff.mpr h]

end Placeholder

namespace Template

/-! ## Reading through -/

/-- `ReadsAs fs t out`: the text `t` is read from left to right as characters other than the percent
sign, doubled percent signs, and placeholders that can write the field they name; `out` is what they
come to, one after another. -/
inductive ReadsAs (fs : Fields) : Text → Text → Prop
  | nil : ReadsAs fs [] []
  | char {c : Char} {t out : Text} (hc : c ≠ '%') (h : ReadsAs fs t out) :
      ReadsAs fs (c :: t) (c :: out)
  | percent {t out : Text} (h : ReadsAs fs t out) :
      ReadsAs fs ('%' :: '%' :: t) ('%' :: out)
  | placeholder {p : Placeholder} {s : Text} {f : Field} {t out : Text}
      (spelled : p.Spells s) (named : f.name = p.name)
      (suits : p.Suits (fs.value f)) (fits : p.Fits (fs.value f)) (h : ReadsAs fs t out) :
      ReadsAs fs ('%' :: (s ++ t)) (p.format (fs.value f) ++ out)

/-- `Offends fs template body fault`: a percent sign before `body` is neither doubled nor the start
of a placeholder that can be filled in. The cases stand in order of precedence. -/
inductive Offends (fs : Fields) (template : Text) : Text → Fault → Prop
  | malformed {body : Text} (not_percent : body.head? ≠ some '%')
      (not_spelled : ∀ (p : Placeholder) (s t : Text), p.Spells s → body ≠ s ++ t) :
      Offends fs template body (.malformedPlaceholder template)
  | unknownField {p : Placeholder} {s t : Text} (spelled : p.Spells s)
      (unnamed : ∀ f : Field, f.name ≠ p.name) :
      Offends fs template (s ++ t) (.unknownField p.name)
  | notNumber {p : Placeholder} {s t : Text} {f : Field} (spelled : p.Spells s)
      (named : f.name = p.name) (unsuited : ¬ p.Suits (fs.value f)) :
      Offends fs template (s ++ t) (.notNumber p.name)
  | widthOutOfRange {p : Placeholder} {s t : Text} {f : Field} (spelled : p.Spells s)
      (named : f.name = p.name) (suits : p.Suits (fs.value f)) (unfit : ¬ p.Fits (fs.value f)) :
      Offends fs template (s ++ t) .widthOutOfRange

variable {fs : Fields} {template : Text}

theorem ReadsAs.append {s t a b : Text} (hs : ReadsAs fs s a) (ht : ReadsAs fs t b) :
    ReadsAs fs (s ++ t) (a ++ b) := by
  induction hs with
  | nil => exact ht
  | char hc _ ih => exact .char hc ih
  | percent _ ih => exact .percent ih
  | placeholder spelled named suits fits _ ih =>
      rw [List.cons_append, List.append_assoc, List.append_assoc]
      exact .placeholder spelled named suits fits ih

/-! ## No third possibility -/

/-- A text reads through, or reads through up to an offending percent sign. -/
def Settled (fs : Fields) (template t : Text) : Prop :=
  (∃ out, ReadsAs fs t out) ∨
    ∃ seen out body fault, t = seen ++ '%' :: body ∧ ReadsAs fs seen out ∧
      Offends fs template body fault

theorem Settled.append {s a t : Text} (hs : ReadsAs fs s a) (ht : Settled fs template t) :
    Settled fs template (s ++ t) := by
  rcases ht with ⟨out, h⟩ | ⟨seen, out, body, fault, rfl, h, hoff⟩
  · exact .inl ⟨_, hs.append h⟩
  · exact .inr ⟨s ++ seen, _, body, fault, (List.append_assoc ..).symm, hs.append h, hoff⟩

theorem Settled.of_offends {body : Text} {fault : Fault} (h : Offends fs template body fault) :
    Settled fs template ('%' :: body) :=
  .inr ⟨[], [], body, fault, rfl, .nil, h⟩

theorem Settled.all (fs : Fields) (template t : Text) : Settled fs template t := by
  induction t using segments.induct with
  | case1 => exact .inl ⟨[], .nil⟩
  | case2 rest ih => exact Settled.append (ReadsAs.percent .nil) ih
  | case3 body _ p rest hread _ ih =>
      obtain ⟨s, spelled, rfl⟩ := Placeholder.read?_eq_some_iff.mp hread
      -- in the order of precedence; what follows matters only if all three hold
      by_cases named : ∃ f : Field, f.name = p.name
      · obtain ⟨f, named⟩ := named
        by_cases suits : p.Suits (fs.value f)
        · by_cases fits : p.Fits (fs.value f)
          · have h := ReadsAs.placeholder spelled named suits fits .nil
            rw [List.append_nil] at h
            exact Settled.append h ih
          · exact .of_offends (.widthOutOfRange spelled named suits fits)
        · exact .of_offends (.notNumber spelled named suits)
      · exact .of_offends (.unknownField spelled fun f hf => named ⟨f, hf⟩)
  | case4 body hbody hread =>
      refine .of_offends (.malformed ?_ (Placeholder.read?_eq_none_iff.mp hread))
      intro h
      rcases List.head?_eq_some_iff.mp h with ⟨rest, rfl⟩
      exact hbody rest rfl
  | case5 c rest _ hc ih => exact Settled.append (ReadsAs.char hc .nil) ih

/-! ## Rendering follows the reading -/

/-- The rest of a template filled in; a fault still tells the whole template. -/
def renderRest (template : Text) (fs : Fields) (t : Text) : Except Fault Text :=
  ((segments t).mapM (Segment.fill template fs)).map List.flatten

theorem render_eq_renderRest (template : Text) (fs : Fields) :
    render template fs = renderRest template fs template := rfl

theorem renderRest_nil : renderRest template fs [] = .ok [] := by
  rw [renderRest, segments]
  rfl

/-- The first segment decides first. -/
theorem renderRest_of_segments {t rest : Text} {s : Segment}
    (h : segments t = s :: segments rest) :
    renderRest template fs t =
      (s.fill template fs).bind fun a => (renderRest template fs rest).map (a ++ ·) := by
  rw [renderRest, h, List.mapM_cons]
  cases s.fill template fs with
  | error fault => rfl
  | ok a =>
      rw [renderRest]
      cases (segments rest).mapM (Segment.fill template fs) <;> rfl

theorem renderRest_char {c : Char} (hc : c ≠ '%') (t : Text) :
    renderRest template fs (c :: t) = (renderRest template fs t).map (c :: ·) :=
  renderRest_of_segments (segments_char hc t)

theorem renderRest_percent (t : Text) :
    renderRest template fs ('%' :: '%' :: t) = (renderRest template fs t).map ('%' :: ·) :=
  renderRest_of_segments (segments_percent t)

theorem renderRest_placeholder {p : Placeholder} {s : Text} (h : p.Spells s) (t : Text) :
    renderRest template fs ('%' :: (s ++ t)) =
      (p.fill fs).bind fun a => (renderRest template fs t).map (a ++ ·) :=
  renderRest_of_segments (segments_placeholder (Placeholder.read?_append_of_spells h t))

/-- **Rendering passes over a text that reads through.** -/
theorem renderRest_append (template : Text) {s out : Text} (h : ReadsAs fs s out) (t : Text) :
    renderRest template fs (s ++ t) = (renderRest template fs t).map (out ++ ·) := by
  -- on the reading: the text alone does not tell where its parts end
  induction h with
  | nil =>
      rw [List.nil_append]
      cases renderRest template fs t <;> rfl
  | char hc _ ih =>
      rw [List.cons_append, renderRest_char hc, ih]
      cases renderRest template fs t <;> rfl
  | percent _ ih =>
      rw [List.cons_append, List.cons_append, renderRest_percent, ih]
      cases renderRest template fs t <;> rfl
  | placeholder spelled named suits fits _ ih =>
      rw [List.cons_append, List.append_assoc, renderRest_placeholder spelled,
        Placeholder.fill_of_name named, Placeholder.write_eq_ok suits fits, ih]
      cases renderRest template fs t with
      | error fault => rfl
      | ok rest => exact congrArg Except.ok (List.append_assoc ..).symm

theorem renderRest_of_offends {body : Text} {fault : Fault}
    (h : Offends fs template body fault) :
    renderRest template fs ('%' :: body) = .error fault := by
  cases h with
  | malformed not_percent not_spelled =>
      have hread : Placeholder.read? body = none := Placeholder.read?_eq_none_iff.mpr not_spelled
      rw [renderRest, segments_malformed not_percent hread]
      rfl
  | unknownField spelled unnamed =>
      rw [renderRest_placeholder spelled, Placeholder.fill_eq_unknownField unnamed]
      rfl
  | notNumber spelled named unsuited =>
      rw [renderRest_placeholder spelled, Placeholder.fill_of_name named,
        Placeholder.write_eq_notNumber unsuited]
      rfl
  | widthOutOfRange spelled named suits unfit =>
      rw [renderRest_placeholder spelled, Placeholder.fill_of_name named,
        Placeholder.write_eq_widthOutOfRange suits unfit]
      rfl

theorem render_eq_ok {out : Text} (h : ReadsAs fs template out) :
    render template fs = .ok out := by
  have hr := renderRest_append template h []
  rw [List.append_nil, renderRest_nil] at hr
  rw [render_eq_renderRest, hr]
  exact congrArg Except.ok (List.append_nil out)

theorem render_eq_error {seen out body : Text} {fault : Fault}
    (ht : template = seen ++ '%' :: body) (h : ReadsAs fs seen out)
    (hoff : Offends fs template body fault) : render template fs = .error fault := by
  have hr := renderRest_append template h ('%' :: body)
  rw [renderRest_of_offends hoff, ← ht] at hr
  rw [render_eq_renderRest, hr]
  rfl

/-- **The outcome of rendering.** A template is rendered to a text exactly when it reads through,
and the text is what it reads as. Otherwise everything before some percent sign reads through, and
the fault is the one of that percent sign, with one of four messages. -/
theorem render_outcome (template : Text) (fs : Fields) :
    (∀ out, render template fs = .ok out ↔ ReadsAs fs template out) ∧
      (∀ fault, render template fs = .error fault ↔
        ∃ seen out body, template = seen ++ '%' :: body ∧ ReadsAs fs seen out ∧
          Offends fs template body fault) ∧
      (Fault.malformedPlaceholder template).message =
        "malformed placeholder in template ".toList ++ Text.quote template ∧
      (∀ name, (Fault.unknownField name).message =
        "template refers to unknown field ".toList ++ Text.quote name) ∧
      (∀ name, (Fault.notNumber name).message =
        "field ".toList ++ Text.quote name ++ " cannot be formatted with %d".toList) ∧
      Fault.widthOutOfRange.message = "Formatting argument out of range".toList := by
  refine ⟨?_, ?_, rfl, fun _ => rfl, fun _ => rfl, rfl⟩
  · intro out
    constructor
    · intro h
      rcases Settled.all fs template template with ⟨out', h'⟩ | ⟨_, _, _, _, ht, h', hoff⟩
      · rw [render_eq_ok h'] at h
        exact Except.ok.inj h ▸ h'
      · rw [render_eq_error ht h' hoff] at h
        cases h
    · exact render_eq_ok
  · intro fault
    constructor
    · intro h
      rcases Settled.all fs template template with ⟨out', h'⟩ | ⟨seen, out, body, _, ht, h', hoff⟩
      · rw [render_eq_ok h'] at h
        cases h
      · rw [render_eq_error ht h' hoff] at h
        exact ⟨seen, out, body, ht, h', Except.error.inj h ▸ hoff⟩
    · rintro ⟨seen, out, body, ht, h', hoff⟩
      exact render_eq_error ht h' hoff

end Template

end Datestamp
