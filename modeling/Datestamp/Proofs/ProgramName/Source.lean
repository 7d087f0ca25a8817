import Datestamp.ProgramName

/-!
# Where the program's name comes from

A program is called by the name that its surroundings set, by the last name on its path, or by
default, and by the first of these that there is. `EndsIn` says what the last name on a path is
without taking the path apart: it stands behind a slash or at the start, and nothing but slashes and
single dots between them follows. `lastName?_eq_some_iff` says that the search finds exactly this
name. So there is always one name and only one, and it is not empty (`resolve_by_source`).

The slash is what makes the reading unique. A part between slashes holds none, so the parts of a path
in front of a name are those of the folders, and the parts behind it are empty or a dot.
-/

namespace Datestamp

namespace Text

theorem intercalate_cons (sep : Char) (part : Text) (after : List Text) :
    [sep].intercalate (part :: after) = part ++ after.flatMap (sep :: ·) := by
  induction after generalizing part with
  | nil => simp
  | cons next after ih =>
      rw [List.intercalate_cons_cons, ih next]
      simp

/-- Around a part, what stands before it ends in the separator, and what follows starts with it. -/
theorem intercalate_append_cons (sep : Char) (before : List Text) (part : Text)
    (after : List Text) :
    [sep].intercalate (before ++ part :: after) =
      before.flatMap (· ++ [sep]) ++ part ++ after.flatMap (sep :: ·) := by
  induction before with
  | nil => exact intercalate_cons sep part after
  | cons first before ih =>
      rw [List.cons_append, List.intercalate_cons_of_ne_nil (by simp), ih]
      simp

end Text

/-! ## The last name on a path -/

/-- What may follow the last name: slashes, each with a dot behind it or not. -/
inductive Trailing : Text → Prop
  | nil : Trailing []
  | slash {t : Text} (h : Trailing t) : Trailing ('/' :: t)
  | dot {t : Text} (h : Trailing t) : Trailing ('/' :: '.' :: t)

/-- A path ends in a name: the folders before it are closed by a slash, and only slashes and dots
follow it. The folder itself and the one above it have no name of their own. -/
inductive EndsIn (name : Text) : Text → Prop
  | mk {folders trailing : Text}
      (closed : folders = [] ∨ ∃ t, folders = t ++ ['/'])
      (nonempty : name ≠ [])
      (no_slash : '/' ∉ name)
      (not_here : name ≠ ['.'])
      (not_above : name ≠ ['.', '.'])
      (ended : Trailing trailing) :
      EndsIn name (folders ++ name ++ trailing)

/-- The parts of a path that count as names. -/
def countedNames (path : Text) : List Text :=
  (Text.split '/' path).filter fun name => name ≠ [] ∧ name ≠ ['.']

theorem lastName?_eq (path : Text) :
    lastName? path = (countedNames path).getLast?.filter (· ≠ ['.', '.']) := rfl

/-! ### A name at the end is found -/

/-- What follows the last name adds parts that are empty or a dot. -/
theorem Trailing.split {t : Text} (h : Trailing t) :
    ∃ parts, (∀ part ∈ parts, part = [] ∨ part = ['.']) ∧
      ∀ name, '/' ∉ name → Text.split '/' (name ++ t) = name :: parts := by
  induction h with
  | nil =>
      refine ⟨[], by simp, fun name hname => ?_⟩
      rw [List.append_nil, Text.split_of_not_mem hname]
  | slash _ ih =>
      obtain ⟨parts, hparts, hsplit⟩ := ih
      refine ⟨[] :: parts, by simpa using hparts, fun name hname => ?_⟩
      rw [Text.split_append_cons, Text.split_of_not_mem hname]
      exact congrArg (name :: ·) (hsplit [] List.not_mem_nil)
  | dot _ ih =>
      obtain ⟨parts, hparts, hsplit⟩ := ih
      refine ⟨['.'] :: parts, by simpa using hparts, fun name hname => ?_⟩
      rw [Text.split_append_cons, Text.split_of_not_mem hname]
      exact congrArg (name :: ·) (hsplit ['.'] (by decide))

theorem countedNames_of_endsIn {name path : Text} (h : EndsIn name path) :
    ∃ names, countedNames path = names ++ [name] := by
  obtain ⟨closed, nonempty, no_slash, not_here, -, ended⟩ := h
  obtain ⟨parts, hparts, hsplit⟩ := ended.split
  have hcounted : (name :: parts).filter (fun name => name ≠ [] ∧ name ≠ ['.']) = [name] := by
    rw [List.filter_cons_of_pos (by simp [nonempty, not_here]), List.filter_eq_nil_iff.mpr]
    intro part hpart
    rcases hparts part hpart with rfl | rfl <;> simp
  unfold countedNames
  rcases closed with rfl | ⟨t, rfl⟩
  · rw [List.nil_append, hsplit name no_slash, hcounted]
    exact ⟨[], rfl⟩
  · rw [List.append_assoc, List.append_assoc, List.singleton_append, Text.split_append_cons,
      hsplit name no_slash, List.filter_append, hcounted]
    exact ⟨_, rfl⟩

/-! ### What is found is a name at the end -/

theorem trailing_flatMap {parts : List Text} (h : ∀ part ∈ parts, part = [] ∨ part = ['.']) :
    Trailing (parts.flatMap ('/' :: ·)) := by
  induction parts with
  | nil => exact .nil
  | cons part parts ih =>
      have hrest := ih fun part hpart => h part (List.mem_cons_of_mem _ hpart)
      rcases h part List.mem_cons_self with rfl | rfl
      · exact .slash hrest
      · exact .dot hrest

theorem closed_flatMap (parts : List Text) :
    parts.flatMap (· ++ ['/']) = [] ∨ ∃ t, parts.flatMap (· ++ ['/']) = t ++ ['/'] := by
  rcases List.eq_nil_or_concat parts with rfl | ⟨parts, part, rfl⟩
  · exact .inl rfl
  · exact .inr ⟨parts.flatMap (· ++ ['/']) ++ part, by simp⟩

theorem endsIn_of_lastName? {name path : Text} (h : lastName? path = some name) :
    EndsIn name path := by
  rw [lastName?_eq, Option.filter_eq_some_iff] at h
  obtain ⟨hlast, hnot_above⟩ := h
  obtain ⟨names, hnames⟩ := List.getLast?_eq_some_iff.mp hlast
  -- the part that is found, and after it only parts that do not count
  obtain ⟨before, rest, hsplit, -, hrest⟩ := List.filter_eq_append_iff.mp hnames
  obtain ⟨skipped, after, rfl, -, hcounts, hafter⟩ := List.filter_eq_cons_iff.mp hrest
  have hmem : name ∈ Text.split '/' path := by simp [hsplit]
  simp only [ne_eq, decide_eq_true_eq] at hcounts hnot_above
  have hafter : ∀ part ∈ after, part = [] ∨ part = ['.'] := by
    intro part hpart
    have := List.filter_eq_nil_iff.mp hafter part hpart
    grind
  rw [← Text.intercalate_split '/' path, hsplit, ← List.append_assoc,
    Text.intercalate_append_cons]
  exact .mk (closed_flatMap _) hcounts.1 (Text.not_mem_of_mem_split hmem) hcounts.2 hnot_above
    (trailing_flatMap hafter)

/-- The search finds a name exactly if the path ends in it. -/
theorem lastName?_eq_some_iff {name path : Text} :
    lastName? path = some name ↔ EndsIn name path := by
  constructor
  · exact endsIn_of_lastName?
  · intro h
    obtain ⟨names, hnames⟩ := countedNames_of_endsIn h
    obtain ⟨-, -, -, -, not_above, -⟩ := h
    rw [lastName?_eq, hnames]
    simp [not_above]

/-! ## The first source that there is -/

namespace ProgramName

/-- A setting that does not count: there is none, or it is empty. -/
def Unset (setting : Option Text) : Prop := ∀ t, setting = some t → t = []

/-- Where the name comes from: the setting, the path, and the default, in order of precedence. -/
inductive NamedBy (path command : Option Text) : Text → Prop
  | command {name : Text} (set : command = some name) (nonempty : name ≠ []) :
      NamedBy path command name
  | path {t name : Text} (unset : Unset command) (called : path = some t)
      (ends : EndsIn name t) : NamedBy path command name
  | default (unset : Unset command) (nameless : ∀ t name, path = some t → ¬ EndsIn name t) :
      NamedBy path command "stamp".toList

variable {path command suite : Option Text} {name : Text}

theorem nonempty?_eq_some_iff {setting : Option Text} {t : Text} :
    nonempty? setting = some t ↔ setting = some t ∧ t ≠ [] := by
  simp [nonempty?, Option.filter_eq_some_iff]

theorem nonempty?_eq_none_iff {setting : Option Text} : nonempty? setting = none ↔ Unset setting := by
  simp [nonempty?, Option.filter_eq_none_iff, Unset]

theorem bind_lastName?_eq_none_iff :
    path.bind lastName? = none ↔ ∀ t name, path = some t → ¬ EndsIn name t := by
  rw [Option.bind_eq_none_iff]
  simp only [Option.eq_none_iff_forall_ne_some, ne_eq, lastName?_eq_some_iff]
  constructor
  · intro h t name ht
    exact h t ht name
  · intro h t ht name
    exact h t name ht

theorem namedBy_name_resolve (path command suite : Option Text) :
    NamedBy path command (resolve path command suite).name := by
  unfold resolve
  cases hcommand : nonempty? command with
  | some name =>
      obtain ⟨hset, hnonempty⟩ := nonempty?_eq_some_iff.mp hcommand
      exact .command hset hnonempty
  | none =>
      have hunset := nonempty?_eq_none_iff.mp hcommand
      cases hlast : path.bind lastName? with
      | some name =>
          obtain ⟨t, ht, hname⟩ := Option.bind_eq_some_iff.mp hlast
          exact .path hunset ht (lastName?_eq_some_iff.mp hname)
      | none => exact .default hunset (bind_lastName?_eq_none_iff.mp hlast)

theorem name_resolve_of_namedBy (h : NamedBy path command name) (suite : Option Text) :
    (resolve path command suite).name = name := by
  unfold resolve
  cases h with
  | command set nonempty => rw [nonempty?_eq_some_iff.mpr ⟨set, nonempty⟩]; rfl
  | path unset called ends =>
      rw [nonempty?_eq_none_iff.mpr unset, called]
      simp [lastName?_eq_some_iff.mpr ends]
  | default unset nameless =>
      rw [nonempty?_eq_none_iff.mpr unset, bind_lastName?_eq_none_iff.mpr nameless]
      rfl

theorem NamedBy.nonempty (h : NamedBy path command name) : name ≠ [] := by
  cases h with
  | command _ nonempty => exact nonempty
  | path _ _ ends =>
      obtain ⟨-, nonempty, -⟩ := ends
      exact nonempty
  | default => decide

theorem diagnosticName_of_set {s : Text} (h : suite = some s) (hs : s ≠ []) :
    (resolve path command suite).diagnosticName =
      s ++ ' ' :: (resolve path command suite).name := by
  simp only [resolve, nonempty?_eq_some_iff.mpr ⟨h, hs⟩]

theorem diagnosticName_of_unset (h : Unset suite) :
    (resolve path command suite).diagnosticName = (resolve path command suite).name := by
  simp only [resolve, nonempty?_eq_none_iff.mpr h]

/-- **A program always has a name, from the first source that there is.** The name is the one that is
set, if it is not empty; else the name that the path ends in, which is only one; else the default. It
is never empty. Diagnostics put the suite and a blank in front of it, if there is a suite. -/
theorem resolve_by_source (path command suite : Option Text) :
    let names := resolve path command suite
    names.name ≠ [] ∧ (∀ name, names.name = name ↔ NamedBy path command name) ∧
      (∀ t name other, EndsIn name t → EndsIn other t → name = other) ∧
      (∀ s, suite = some s → s ≠ [] → names.diagnosticName = s ++ ' ' :: names.name) ∧
      (Unset suite → names.diagnosticName = names.name) := by
  intro names
  have hnamed : NamedBy path command names.name := namedBy_name_resolve path command suite
  refine ⟨hnamed.nonempty, ?_, ?_, fun s => diagnosticName_of_set, diagnosticName_of_unset⟩
  · intro name
    constructor
    · rintro rfl
      exact hnamed
    · intro h
      exact name_resolve_of_namedBy h suite
  · intro t name other hname hother
    rw [← lastName?_eq_some_iff] at hname hother
    exact Option.some.inj (hname.symm.trans hother)

/-- A name with dots of its own, behind a doubled slash and before slashes and dots; and a path that
ends in the folder above. -/
theorem resolve_by_source_of_odd_paths :
    EndsIn "..st.".toList "//opt/..st././/.".toList ∧ Unset (some []) ∧
      (resolve (some "//opt/..st././/.".toList) (some []) (some "pkm".toList)).name =
        "..st.".toList ∧
      (resolve (some "//opt/..st././/.".toList) (some []) (some "pkm".toList)).diagnosticName =
        "pkm ..st.".toList ∧
      (resolve (some "bin/..".toList) none (some [])).name = "stamp".toList ∧
      (resolve (some "bin/..".toList) none (some [])).diagnosticName = "stamp".toList := by
  have hunset : Unset (some []) := by
    rintro t ⟨⟩
    rfl
  have hends : EndsIn "..st.".toList ("//opt/".toList ++ "..st.".toList ++ "/.//.".toList) :=
    .mk (.inr ⟨"//opt".toList, rfl⟩) (by decide) (by decide) (by decide) (by decide)
      (.dot (.slash (.dot .nil)))
  have hnameless : ∀ t name, some "bin/..".toList = some t → ¬ EndsIn name t := by
    rw [← bind_lastName?_eq_none_iff]
    decide
  obtain ⟨-, hname, -, hsuite, -⟩ :=
    resolve_by_source (some "//opt/..st././/.".toList) (some []) (some "pkm".toList)
  obtain ⟨-, hdefault, -, -, hplain⟩ := resolve_by_source (some "bin/..".toList) none (some [])
  have hfound := (hname _).mpr (.path hunset rfl hends)
  have hstamp := (hdefault _).mpr (.default (fun t ht => nomatch ht) hnameless)
  refine ⟨hends, hunset, hfound, ?_, hstamp, ?_⟩
  · rw [hsuite _ rfl (by decide), hfound]
    rfl
  · rw [hplain hunset, hstamp]

end ProgramName

end Datestamp
