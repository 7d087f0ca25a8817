import Datestamp.Proofs.Arguments.Spelling

/-!
# Which arguments count

A command line fails with its first unknown argument, whatever stands after it. If all arguments are
known, flags count wherever they stand and of each option the last one does. So such arguments may be
put in another order as long as the options of one kind keep theirs; and a command line put behind
one of known arguments fails as it does alone, or adds its flags and overrides the options that it
sets (`parse_precedence`).
-/

namespace Datestamp

namespace Arguments

open Setting

variable {lead value : Text} {arguments : List Text}

/-! ## The last option of a kind -/

/-- What follows `lead` in the last argument that starts with it. -/
def IsLast (lead : Text) (arguments : List Text) (value : Text) : Prop :=
  ∃ before after, arguments = before ++ (lead ++ value) :: after ∧ ∀ a ∈ after, ¬ lead <+: a

/-- Some argument starts with `lead`. -/
def Sets (lead : Text) (arguments : List Text) : Prop := ∃ a ∈ arguments, lead <+: a

theorem filterMap_strip?_eq_nil_iff :
    arguments.filterMap (Text.strip? lead) = [] ↔ ¬ Sets lead arguments := by
  rw [List.filterMap_eq_nil_iff]
  constructor
  · rintro h ⟨a, ha, hlead⟩
    exact Text.strip?_eq_none_iff.mp (h a ha) hlead
  · intro h a ha
    exact Text.strip?_eq_none_iff.mpr fun hlead => h ⟨a, ha, hlead⟩

theorem lastValue?_eq_none_iff : lastValue? lead arguments = none ↔ ¬ Sets lead arguments := by
  rw [lastValue?, List.getLast?_eq_none_iff, filterMap_strip?_eq_nil_iff]

theorem exists_lastValue? (h : Sets lead arguments) :
    ∃ value, lastValue? lead arguments = some value := by
  cases hlast : lastValue? lead arguments with
  | none => exact absurd h (lastValue?_eq_none_iff.mp hlast)
  | some value => exact ⟨value, rfl⟩

theorem lastValue?_append (lead : Text) (a b : List Text) :
    lastValue? lead (a ++ b) = (lastValue? lead b).or (lastValue? lead a) := by
  rw [lastValue?, List.filterMap_append, List.getLast?_append]
  rfl

theorem isLast_of_lastValue? (h : lastValue? lead arguments = some value) :
    IsLast lead arguments value := by
  obtain ⟨values, hvalues⟩ := List.getLast?_eq_some_iff.mp h
  obtain ⟨front, back, rfl, -, hback⟩ := List.filterMap_eq_append_iff.mp hvalues
  obtain ⟨between, a, after, rfl, -, ha, hafter⟩ := List.filterMap_eq_cons_iff.mp hback
  obtain rfl := Text.strip?_eq_some_iff.mp ha
  refine ⟨front ++ between, after, (List.append_assoc _ _ _).symm, fun b hb hlead => ?_⟩
  exact filterMap_strip?_eq_nil_iff.mp hafter ⟨b, hb, hlead⟩

/-- The arguments that start with `lead`, in their order. -/
def options (lead : Text) (arguments : List Text) : List Text :=
  arguments.filter lead.isPrefixOf

/-- The last value depends on the options of its kind only. -/
theorem lastValue?_options (lead : Text) (arguments : List Text) :
    lastValue? lead (options lead arguments) = lastValue? lead arguments := by
  have hstrip : (fun a => if lead.isPrefixOf a then Text.strip? lead a else none) =
      Text.strip? lead := by
    funext a
    split
    · rfl
    · rename_i h
      exact (Text.strip?_eq_none_iff.mpr (mt List.isPrefixOf_iff_prefix.mpr h)).symm
  rw [lastValue?, options, List.filterMap_filter, hstrip, lastValue?]

/-! ## Known arguments -/

/-- What known arguments ask for: flags from wherever they stand, and of each option the last value,
or what holds without it. -/
structure AskedBy (arguments : List Text) (a : Arguments) : Prop where
  help : a.help = true ↔ ∃ flag ∈ arguments, flag ∈ helpFlags
  version : a.version = true ↔ "--version".toList ∈ arguments
  format : IsLast "--format=".toList arguments a.format ∨
    ¬ Sets "--format=".toList arguments ∧ a.format = Format.default
  file : (∃ path, a.file = some path ∧ IsLast "--file=".toList arguments path) ∨
    ¬ Sets "--file=".toList arguments ∧ a.file = none

theorem askedBy_withLast (arguments : List Text) : AskedBy arguments (withLast {} arguments) where
  help := help_withLast
  version := version_withLast
  format := by
    show IsLast _ _ ((lastValue? _ arguments).getD _) ∨ _ ∧ (lastValue? _ arguments).getD _ = _
    cases h : lastValue? "--format=".toList arguments with
    | none => exact .inr ⟨lastValue?_eq_none_iff.mp h, rfl⟩
    | some value => exact .inl (isLast_of_lastValue? h)
  file := by
    show (∃ path, (lastValue? _ arguments).or _ = _ ∧ _) ∨ _ ∧ (lastValue? _ arguments).or _ = _
    cases h : lastValue? "--file=".toList arguments with
    | none => exact .inr ⟨lastValue?_eq_none_iff.mp h, rfl⟩
    | some path => exact .inl ⟨path, rfl, isLast_of_lastValue? h⟩

theorem withLast_perm {reordered : List Text} (h : arguments.Perm reordered)
    (hformat : options "--format=".toList arguments = options "--format=".toList reordered)
    (hfile : options "--file=".toList arguments = options "--file=".toList reordered)
    (a : Arguments) : a.withLast arguments = a.withLast reordered := by
  simp only [withLast, ← lastValue?_options _ arguments, ← lastValue?_options _ reordered, hformat,
    hfile, h.any_eq]

/-- What two command lines ask for one after the other. -/
structure Joined (second : List Text) (a b joined : Arguments) : Prop where
  help : joined.help = (a.help || b.help)
  version : joined.version = (a.version || b.version)
  format_set : Sets "--format=".toList second → joined.format = b.format
  format_kept : ¬ Sets "--format=".toList second → joined.format = a.format
  file_set : Sets "--file=".toList second → joined.file = b.file
  file_kept : ¬ Sets "--file=".toList second → joined.file = a.file

theorem joined_withLast (first second : List Text) :
    Joined second (withLast {} first) (withLast {} second) (withLast {} (first ++ second)) where
  help := by simp [withLast]
  version := by simp [withLast]
  format_set := by
    intro h
    obtain ⟨value, hvalue⟩ := exists_lastValue? h
    simp only [withLast, lastValue?_append, hvalue]
    rfl
  format_kept := by
    intro h
    simp only [withLast, lastValue?_append, lastValue?_eq_none_iff.mpr h]
    rfl
  file_set := by
    intro h
    obtain ⟨value, hvalue⟩ := exists_lastValue? h
    simp only [withLast, lastValue?_append, hvalue]
    rfl
  file_kept := by
    intro h
    simp only [withLast, lastValue?_append, lastValue?_eq_none_iff.mpr h]
    rfl

/-! ## Unknown arguments -/

/-- All arguments are known, or there is a first one that is not. -/
theorem parse_cases (arguments : List Text) :
    (∀ a ∈ arguments, Known a) ∧ parse arguments = .ok (withLast {} arguments) ∨
      ∃ before argument after, arguments = before ++ argument :: after ∧
        (∀ b ∈ before, Known b) ∧ ¬ Known argument ∧
        parse arguments = .error (rejection argument) := by
  by_cases hknown : ∀ a ∈ arguments, Known a
  · exact .inl ⟨hknown, parse_of_known hknown⟩
  · have hunknown : ∃ a ∈ arguments, ¬ Known a := by simpa using hknown
    obtain ⟨before, argument, after, rfl, hbefore, hargument⟩ := exists_first_unknown hunknown
    exact .inr ⟨before, argument, after, rfl, hbefore, hargument,
      parse_of_unknown hbefore hargument⟩

theorem parse_eq_ok_iff {a : Arguments} : parse arguments = .ok a ↔
    (∀ b ∈ arguments, Known b) ∧ withLast {} arguments = a := by
  constructor
  · intro h
    rcases parse_cases arguments with ⟨hknown, hok⟩ | ⟨_, _, _, -, -, -, herror⟩
    · exact ⟨hknown, Except.ok.inj (hok.symm.trans h)⟩
    · cases herror.symm.trans h
  · rintro ⟨hknown, rfl⟩
    exact parse_of_known hknown

/-- The first unknown argument is what fails, and the only thing that does. -/
theorem parse_eq_error_iff {p : Problem} : parse arguments = .error p ↔
    ∃ before argument after, arguments = before ++ argument :: after ∧
      (∀ b ∈ before, Known b) ∧ ¬ Known argument ∧ p = rejection argument := by
  constructor
  · intro h
    rcases parse_cases arguments with
      ⟨-, hok⟩ | ⟨before, argument, after, hsplit, hbefore, hargument, herror⟩
    · cases hok.symm.trans h
    · have hp := Except.error.inj (h.symm.trans herror)
      exact ⟨before, argument, after, hsplit, hbefore, hargument, hp⟩
  · rintro ⟨before, argument, after, rfl, hbefore, hargument, rfl⟩
    exact parse_of_unknown hbefore hargument

theorem message_rejection (argument : Text) : (rejection argument).message =
    (if argument = "--format=".toList ∨ argument = "--file=".toList then "ill-formed option '".toList
      else "invalid option '".toList) ++ argument ++ ['\''] := by
  unfold rejection
  split
  · rfl
  · rfl

theorem parse_append_of_error {first second : List Text} {p : Problem}
    (hfirst : ∀ a ∈ first, Known a) (h : parse second = .error p) :
    parse (first ++ second) = .error p := by
  obtain ⟨before, argument, after, rfl, hbefore, hargument, rfl⟩ := parse_eq_error_iff.mp h
  refine parse_eq_error_iff.mpr ⟨first ++ before, argument, after, ?_, ?_, hargument, rfl⟩
  · exact (List.append_assoc _ _ _).symm
  · exact List.forall_mem_append.mpr ⟨hfirst, hbefore⟩

/-- **Which arguments count.** A command line fails exactly if an argument is unknown, and with the
first such argument, whatever follows it; the message names it. Known arguments never fail: flags
count wherever they stand, and of each option the last. Put in another order they ask for the same, as
long as the options of one kind keep theirs. Behind known arguments a command line fails as it does
alone, or its flags are added and its options override. -/
theorem parse_precedence :
    (∀ arguments, (∃ p, parse arguments = .error p) ↔ ∃ a ∈ arguments, ¬ Known a) ∧
      (∀ before argument after, (∀ b ∈ before, Known b) → ¬ Known argument →
        ∃ p, parse (before ++ argument :: after) = .error p ∧ p.message =
          (if argument = "--format=".toList ∨ argument = "--file=".toList
            then "ill-formed option '".toList else "invalid option '".toList) ++
            argument ++ ['\'']) ∧
      (∀ arguments, (∀ a ∈ arguments, Known a) →
        ∃ a, parse arguments = .ok a ∧ AskedBy arguments a) ∧
      (∀ arguments reordered, (∀ a ∈ arguments, Known a) → arguments.Perm reordered →
        options "--format=".toList arguments = options "--format=".toList reordered →
        options "--file=".toList arguments = options "--file=".toList reordered →
        parse reordered = parse arguments) ∧
      ∀ first second, (∀ a ∈ first, Known a) →
        (∀ p, parse second = .error p → parse (first ++ second) = .error p) ∧
          ∀ b, parse second = .ok b → ∃ a joined, parse first = .ok a ∧
            parse (first ++ second) = .ok joined ∧ Joined second a b joined := by
  refine ⟨?_, ?_, ?_, ?_, ?_⟩
  · intro arguments
    constructor
    · rintro ⟨p, h⟩
      obtain ⟨before, argument, after, rfl, -, hargument, -⟩ := parse_eq_error_iff.mp h
      exact ⟨argument, List.mem_append_right before List.mem_cons_self, hargument⟩
    · intro h
      obtain ⟨before, argument, after, rfl, hbefore, hargument⟩ := exists_first_unknown h
      exact ⟨_, parse_of_unknown hbefore hargument⟩
  · intro before argument after hbefore hargument
    exact ⟨_, parse_of_unknown hbefore hargument, message_rejection argument⟩
  · intro arguments hknown
    exact ⟨_, parse_of_known hknown, askedBy_withLast arguments⟩
  · intro arguments reordered hknown hperm hformat hfile
    have hreordered : ∀ a ∈ reordered, Known a := fun a ha => hknown a (hperm.mem_iff.mpr ha)
    rw [parse_of_known hknown, parse_of_known hreordered, withLast_perm hperm hformat hfile]
  · intro first second hfirst
    constructor
    · intro p h
      exact parse_append_of_error hfirst h
    · intro b h
      obtain ⟨hsecond, rfl⟩ := parse_eq_ok_iff.mp h
      have hboth : ∀ a ∈ first ++ second, Known a := List.forall_mem_append.mpr ⟨hfirst, hsecond⟩
      exact ⟨_, _, parse_of_known hfirst, parse_of_known hboth, joined_withLast first second⟩

/-- Values that look like options, an option that is overridden, and one without a value that fails
although a later one of its kind has a value. -/
theorem parse_precedence_of_odd_values :
    let first := ["--format=--file=x".toList, "-?".toList, "--file=a=b".toList]
    let second := ["--file=--format=".toList, "--version".toList]
    (∀ a ∈ first, Known a) ∧
      (∃ joined, parse (first ++ second) = .ok joined ∧ joined.help = true ∧ joined.version = true ∧
        joined.format = "--file=x".toList ∧ joined.file = some "--format=".toList) ∧
      ∃ p, parse (first ++ "--format=".toList :: ["--format=%j".toList]) = .error p ∧
        p.message = "ill-formed option '--format='".toList := by
  intro first second
  have hfirst : ∀ a ∈ first, Known a := by decide
  have hunknown : ¬ Known "--format=".toList := by decide
  obtain ⟨-, unknown, -, -, joined⟩ := parse_precedence
  refine ⟨hfirst, ?_, ?_⟩
  · obtain ⟨a, both, ha, hboth, h⟩ := (joined first second hfirst).2 _ rfl
    obtain rfl : ({ file := some "a=b".toList, format := "--file=x".toList, help := true } :
        Arguments) = a := Except.ok.inj ha
    have hfile : Sets "--file=".toList second :=
      ⟨"--file=--format=".toList, List.mem_cons_self, "--format=".toList, rfl⟩
    have hformat : ¬ Sets "--format=".toList second := by
      unfold Sets
      decide
    exact ⟨both, hboth, h.help, h.version, h.format_kept hformat, h.file_set hfile⟩
  · obtain ⟨p, hp, hmessage⟩ := unknown first "--format=".toList ["--format=%j".toList] hfirst hunknown
    exact ⟨p, hp, hmessage⟩

end Arguments

end Datestamp
