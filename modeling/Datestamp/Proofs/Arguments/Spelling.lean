import Datestamp.Arguments

/-!
# What arguments ask for

`Setting.Spells` says how each setting is spelled, without naming a reader. An argument that spells a
setting is read as that setting, and any other is rejected for one of two reasons. A command line of
spelled arguments asks for what any of its flags ask for and for the last value of each option
(`Arguments.parse_of_known`); the first argument that spells nothing is the one that is reported,
whatever stands before and after it (`Arguments.parse_of_unknown`).
-/

namespace Datestamp

/-! ## One argument -/

namespace Setting

/-- The arguments that spell a setting: a flag, or an option with a value that is not empty. -/
inductive Spells : Setting → Text → Prop
  | help {flag : Text} (listed : flag ∈ helpFlags) : Spells .help flag
  | version : Spells .version "--version".toList
  | format {value : Text} (nonempty : value ≠ []) :
      Spells (.format value) ("--format=".toList ++ value)
  | file {path : Text} (nonempty : path ≠ []) : Spells (.file path) ("--file=".toList ++ path)

/-- The arguments that spell some setting. -/
def Known (argument : Text) : Prop := ∃ s : Setting, s.Spells argument

/-- Why an argument is rejected: an option without its value is ill-formed, anything else invalid. -/
def rejection (argument : Text) : Problem :=
  if argument = "--format=".toList ∨ argument = "--file=".toList then .illFormedOption argument
  else .invalidOption argument

/-- A help flag is nothing else. -/
theorem other_of_helpFlag : ∀ flag ∈ helpFlags,
    Text.strip? "--file=".toList flag = none ∧ Text.strip? "--format=".toList flag = none ∧
      flag ≠ "--version".toList := by
  decide

theorem ofArgument_of_spells {s : Setting} {argument : Text} (h : s.Spells argument) :
    ofArgument argument = .ok s := by
  cases h with
  | help listed => exact if_pos listed
  | version => rfl
  | @format value nonempty =>
      have hflag : "--format=".toList ++ value ∉ helpFlags := by simp [helpFlags]
      have hversion : "--format=".toList ++ value ≠ "--version".toList := by simp
      rw [ofArgument, if_neg hflag, if_neg hversion, Text.strip?_append]
      show (Setting.nonempty _ value).map _ = _
      rw [Setting.nonempty, if_neg nonempty]
      rfl
  | @file path nonempty =>
      have hflag : "--file=".toList ++ path ∉ helpFlags := by simp [helpFlags]
      have hversion : "--file=".toList ++ path ≠ "--version".toList := by simp
      have hformat : Text.strip? "--format=".toList ("--file=".toList ++ path) = none := rfl
      rw [ofArgument, if_neg hflag, if_neg hversion, hformat, Text.strip?_append]
      show (Setting.nonempty _ path).map _ = _
      rw [Setting.nonempty, if_neg nonempty]
      rfl

/-- An option without a value spells nothing and is ill-formed. -/
theorem ofArgument_of_not_known {argument : Text} (h : ¬ Known argument) :
    ofArgument argument = .error (rejection argument) := by
  have hflag : argument ∉ helpFlags := fun listed => h ⟨_, .help listed⟩
  have hversion : argument ≠ "--version".toList := by
    rintro rfl
    exact h ⟨_, .version⟩
  rw [ofArgument, if_neg hflag, if_neg hversion]
  cases hformat : Text.strip? "--format=".toList argument with
  | some value =>
      obtain rfl := Text.strip?_eq_some_iff.mp hformat
      cases value with
      | nil => rfl
      | cons c value => exact absurd ⟨_, .format (List.cons_ne_nil c value)⟩ h
  | none =>
      cases hfile : Text.strip? "--file=".toList argument with
      | some path =>
          obtain rfl := Text.strip?_eq_some_iff.mp hfile
          cases path with
          | nil => rfl
          | cons c path => exact absurd ⟨_, .file (List.cons_ne_nil c path)⟩ h
      | none =>
          have hoption : ¬ (argument = "--format=".toList ∨ argument = "--file=".toList) := by
            rintro (rfl | rfl)
            · exact absurd hformat (by decide)
            · exact absurd hfile (by decide)
          rw [rejection, if_neg hoption]

theorem known_iff {argument : Text} : Known argument ↔ (ofArgument argument).isOk = true := by
  constructor
  · rintro ⟨s, hs⟩
    rw [ofArgument_of_spells hs]
    rfl
  · intro h
    by_cases hknown : Known argument
    · exact hknown
    · rw [ofArgument_of_not_known hknown] at h
      cases h

instance (argument : Text) : Decidable (Known argument) := decidable_of_iff _ known_iff.symm

end Setting

/-! ## A command line -/

namespace Arguments

open Setting

/-- The value of the last option that starts with `lead`. -/
def lastValue? (lead : Text) (arguments : List Text) : Option Text :=
  (arguments.filterMap (Text.strip? lead)).getLast?

/-- What a command line asks for on top of `a`: its flags wherever they stand, and the last value of
each option. -/
def withLast (a : Arguments) (arguments : List Text) : Arguments where
  file := (lastValue? "--file=".toList arguments).or a.file
  format := (lastValue? "--format=".toList arguments).getD a.format
  help := a.help || arguments.any helpFlags.contains
  version := a.version || arguments.any (· = "--version".toList)

theorem lastValue?_cons_of_none {lead argument : Text} (h : Text.strip? lead argument = none)
    (arguments : List Text) : lastValue? lead (argument :: arguments) = lastValue? lead arguments := by
  rw [lastValue?, List.filterMap_cons_none h, lastValue?]

theorem lastValue?_cons_of_some {lead argument value : Text}
    (h : Text.strip? lead argument = some value) (arguments : List Text) :
    lastValue? lead (argument :: arguments) = some ((lastValue? lead arguments).getD value) := by
  rw [lastValue?, List.filterMap_cons_some h, List.getLast?_cons, lastValue?]

theorem withLast_nil (a : Arguments) : a.withLast [] = a := by
  show Arguments.mk a.file a.format (a.help || false) (a.version || false) = a
  rw [Bool.or_false, Bool.or_false]

/-- One more argument in front is one more setting that the others may override. -/
theorem withLast_cons {s : Setting} {argument : Text} (h : s.Spells argument) (a : Arguments)
    (arguments : List Text) :
    a.withLast (argument :: arguments) = (a.set s).withLast arguments := by
  cases h with
  | help listed =>
      obtain ⟨hfile, hformat, hversion⟩ := other_of_helpFlag argument listed
      rw [withLast, lastValue?_cons_of_none hfile, lastValue?_cons_of_none hformat]
      simp only [withLast, set, List.any_cons, List.contains_iff_mem.mpr listed,
        decide_eq_false hversion, Bool.true_or, Bool.or_true, Bool.false_or]
  | version =>
      rw [withLast, lastValue?_cons_of_none rfl, lastValue?_cons_of_none rfl]
      simp [withLast, set, helpFlags]
  | @format value nonempty =>
      rw [withLast, lastValue?_cons_of_none rfl,
        lastValue?_cons_of_some (Text.strip?_append _ value)]
      simp [withLast, set, helpFlags]
  | @file path nonempty =>
      have hformat : Text.strip? "--format=".toList ("--file=".toList ++ path) = none := rfl
      rw [withLast, lastValue?_cons_of_none hformat,
        lastValue?_cons_of_some (Text.strip?_append _ path)]
      simp [withLast, set, helpFlags]

theorem settings_cons (argument : Text) (arguments : List Text) :
    settings (argument :: arguments) = do
      let s ← ofArgument argument
      let ss ← settings arguments
      return s :: ss :=
  List.mapM_cons

theorem exists_settings {arguments : List Text} (h : ∀ a ∈ arguments, Known a) (a : Arguments) :
    ∃ ss, settings arguments = .ok ss ∧ ss.foldl set a = a.withLast arguments := by
  induction arguments generalizing a with
  | nil => exact ⟨[], rfl, (withLast_nil a).symm⟩
  | cons argument arguments ih =>
      obtain ⟨s, hs⟩ := h argument List.mem_cons_self
      obtain ⟨ss, hss, hfold⟩ := ih (fun b hb => h b (List.mem_cons_of_mem _ hb)) (a.set s)
      refine ⟨s :: ss, ?_, ?_⟩
      · rw [settings_cons]
        exact bind_eq_ok (ofArgument_of_spells hs) (bind_eq_ok hss rfl)
      · rw [withLast_cons hs, ← hfold]
        rfl

/-- **A command line of known arguments.** -/
theorem parse_of_known {arguments : List Text} (h : ∀ a ∈ arguments, Known a) :
    parse arguments = .ok (withLast {} arguments) := by
  obtain ⟨ss, hss, hfold⟩ := exists_settings h {}
  rw [parse, hss, ← hfold]
  rfl

theorem help_withLast {arguments : List Text} :
    (withLast {} arguments).help = true ↔ ∃ flag ∈ arguments, flag ∈ helpFlags := by
  simp [withLast]

theorem version_withLast {arguments : List Text} :
    (withLast {} arguments).version = true ↔ "--version".toList ∈ arguments := by
  simp only [withLast, Bool.false_or, List.any_eq_true, decide_eq_true_eq, exists_eq_right]

/-- Unless all arguments are known, one of them is the first that is not. -/
theorem exists_first_unknown {arguments : List Text} (h : ∃ a ∈ arguments, ¬ Known a) :
    ∃ before argument after, arguments = before ++ argument :: after ∧
      (∀ b ∈ before, Known b) ∧ ¬ Known argument := by
  induction arguments with
  | nil => simp at h
  | cons argument arguments ih =>
      by_cases hknown : Known argument
      · have hrest : ∃ a ∈ arguments, ¬ Known a := by
          obtain ⟨a, ha, hunknown⟩ := h
          rcases List.mem_cons.mp ha with rfl | ha
          · exact absurd hknown hunknown
          · exact ⟨a, ha, hunknown⟩
        obtain ⟨before, a, after, rfl, hbefore, hunknown⟩ := ih hrest
        refine ⟨argument :: before, a, after, rfl, ?_, hunknown⟩
        intro b hb
        rcases List.mem_cons.mp hb with rfl | hb
        · exact hknown
        · exact hbefore b hb
      · exact ⟨[], argument, arguments, rfl, by simp, hknown⟩

theorem settings_of_unknown {before after : List Text} {argument : Text}
    (hbefore : ∀ b ∈ before, Known b) (hunknown : ¬ Known argument) :
    settings (before ++ argument :: after) = .error (rejection argument) := by
  induction before with
  | nil =>
      rw [List.nil_append, settings_cons, ofArgument_of_not_known hunknown]
      rfl
  | cons b before ih =>
      obtain ⟨s, hs⟩ := hbefore b List.mem_cons_self
      have hrest := ih fun c hc => hbefore c (List.mem_cons_of_mem _ hc)
      rw [List.cons_append, settings_cons, ofArgument_of_spells hs, hrest]
      rfl

/-- **The first unknown argument of a command line.** -/
theorem parse_of_unknown {before after : List Text} {argument : Text}
    (hbefore : ∀ b ∈ before, Known b) (hunknown : ¬ Known argument) :
    parse (before ++ argument :: after) = .error (rejection argument) := by
  rw [parse, settings_of_unknown hbefore hunknown]
  rfl

end Arguments

end Datestamp
