import Datestamp.Proofs.Template.Outcome

/-!
# Templates put together

A template that can be rendered leaves nothing open at its end: no single percent sign, and no
bracket or digits that a text behind it could go on with. So a second template is rendered behind it
as it is on its own. Both texts stand side by side, and a fault of the second template is the fault
of the two together, but that a malformed placeholder tells the whole template
(`render_append_outcome`).

The first template has to be rendered without a fault. A percent sign at its end is one, and with
another percent sign behind it is none.
-/

namespace Datestamp

/-- The same fault in another template. Only a malformed placeholder tells its template. -/
def Fault.inTemplate (template : Text) : Fault → Fault
  | .malformedPlaceholder _ => .malformedPlaceholder template
  | fault => fault

namespace Template

variable {fs : Fields}

/-! ## What an outcome says about the template -/

theorem readsAs_of_render {t out : Text} (h : render t fs = .ok out) : ReadsAs fs t out := by
  rcases Settled.all fs t t with ⟨_, hreads⟩ | ⟨_, _, _, _, ht, hreads, hoff⟩
  · rw [render_eq_ok hreads] at h
    exact Except.ok.inj h ▸ hreads
  · rw [render_eq_error ht hreads hoff] at h
    cases h

theorem offends_of_render {t : Text} {fault : Fault} (h : render t fs = .error fault) :
    ∃ seen out body, t = seen ++ '%' :: body ∧ ReadsAs fs seen out ∧ Offends fs t body fault := by
  rcases Settled.all fs t t with ⟨_, hreads⟩ | ⟨seen, out, body, _, ht, hreads, hoff⟩
  · rw [render_eq_ok hreads] at h
    cases h
  · rw [render_eq_error ht hreads hoff] at h
    exact ⟨seen, out, body, ht, hreads, Except.error.inj h ▸ hoff⟩

/-- A percent sign offends for the same reason in every template. -/
theorem Offends.inTemplate {template body : Text} {fault : Fault}
    (h : Offends fs template body fault) (template' : Text) :
    Offends fs template' body (fault.inTemplate template') := by
  cases h with
  | malformed not_percent not_spelled => exact .malformed not_percent not_spelled
  | unknownField spelled unnamed => exact .unknownField spelled unnamed
  | notNumber spelled named unsuited => exact .notNumber spelled named unsuited
  | widthOutOfRange spelled named suits unfit => exact .widthOutOfRange spelled named suits unfit

/-! ## One template behind another -/

/-- **Rendering goes template by template.** Behind a template that is rendered to a text, a second
one is rendered as on its own: its text follows the first, and its fault is the fault of both. -/
theorem render_append_outcome {s out : Text} (h : render s fs = .ok out) (t : Text) :
    (∀ out', render t fs = .ok out' → render (s ++ t) fs = .ok (out ++ out')) ∧
      ∀ fault, render t fs = .error fault →
        render (s ++ t) fs = .error (fault.inTemplate (s ++ t)) := by
  have hs := readsAs_of_render h
  constructor
  · intro out' ht
    exact render_eq_ok (hs.append (readsAs_of_render ht))
  · intro fault ht
    obtain ⟨seen, out', body, hsplit, hseen, hoff⟩ := offends_of_render ht
    have hwhole : s ++ t = (s ++ seen) ++ '%' :: body := by rw [hsplit, List.append_assoc]
    exact render_eq_error hwhole (hs.append hseen) (hoff.inTemplate (s ++ t))

/-- Behind a doubled percent sign, the text of a placeholder without its own percent sign: once with
a placeholder behind it, once with one that lacks its letter. -/
theorem render_append_outcome_after_percent :
    let fs : Fields := ⟨⟨2018, 1, 2, 9, 42, 20, 1, 2, some "CET".toList, .inactive, 3600⟩,
      "CET".toList, .ofSeconds 3600, .zero, .ofSeconds 3600⟩
    let s : Text := "%(tm_year)04d%%".toList
    let t : Text := "(tm_mon)02d %(tm_mon)02d".toList
    let u : Text := "(tm_mon)02d %(tm_mon)02".toList
    render s fs = .ok "2018%".toList ∧ render t fs = .ok "(tm_mon)02d 01".toList ∧
      render (s ++ t) fs = .ok "2018%(tm_mon)02d 01".toList ∧
      render u fs = .error (.malformedPlaceholder u) ∧
      render (s ++ u) fs = .error (.malformedPlaceholder (s ++ u)) := by
  intro fs s t u
  have hs : render s fs = .ok "2018%".toList := eq_ok_of_toOption (by decide +kernel)
  have ht : render t fs = .ok "(tm_mon)02d 01".toList := eq_ok_of_toOption (by decide +kernel)
  have hseen : render "(tm_mon)02d ".toList fs = .ok "(tm_mon)02d ".toList :=
    eq_ok_of_toOption (by decide +kernel)
  have hread : Placeholder.read? "(tm_mon)02".toList = none := by decide +kernel
  have hu : render u fs = .error (.malformedPlaceholder u) :=
    render_eq_error rfl (readsAs_of_render hseen)
      (.malformed (by decide) (Placeholder.read?_eq_none_iff.mp hread))
  exact ⟨hs, ht, (render_append_outcome hs t).1 _ ht, hu, (render_append_outcome hs u).2 _ hu⟩

end Template

end Datestamp
