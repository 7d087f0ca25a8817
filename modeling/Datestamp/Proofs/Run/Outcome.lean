import Datestamp.Proofs.Arguments.Spelling
import Datestamp.Proofs.Host.Known
import Datestamp.Proofs.Zone.InEffect
import Datestamp.Run

/-!
# The outcome of a run

A run passes four points: its arguments, the requests for help or for the version, the instant to
print, and the local time of that instant. Each point has its lemma, which says how the run goes on
from there; the outcome of a whole run is put together from them (`Run.run_outcome`). Until the third
point nothing is asked of the host, so up to there the outcome is the same on every host.
-/

namespace Datestamp.Run

variable {env : Environment} {host : Host} {arguments : List Text} {file : Option Text}
  {format : Text}

/-! ## From the arguments -/

theorem run_of_rejected {p : Problem} (h : Arguments.parse arguments = .error p) :
    run env host arguments = ⟨1, [], env.report p⟩ := by
  rw [run, h]
  rfl

theorem run_of_help {a : Arguments} (h : Arguments.parse arguments = .ok a)
    (hhelp : a.help = true) :
    run env host arguments = ⟨0, helpText env.programName.name, []⟩ := by
  simp only [run, h, hhelp, if_true]

theorem run_of_version {a : Arguments} (h : Arguments.parse arguments = .ok a)
    (hhelp : a.help = false) (hversion : a.version = true) :
    run env host arguments = ⟨0, ProgramName.version ++ ['\n'], []⟩ := by
  simp only [run, h, hhelp, hversion, if_true, Bool.false_eq_true, if_false]

theorem run_of_stamp {a : Arguments} (h : Arguments.parse arguments = .ok a)
    (hhelp : a.help = false) (hversion : a.version = false) :
    run env host arguments = stamp env host a.file a.format := by
  simp only [run, h, hhelp, hversion, Bool.false_eq_true, if_false]

/-! ## From the instant -/

/-- An instant is refused with a problem, never with a fault. -/
theorem instant_ne_fault (host : Host) (file : Option Text) (fault : Fault) :
    instant host file ≠ .error (.fault fault) := by
  have hproblem : ∀ x : Except Problem Int, x.mapError Failure.problem ≠ .error (.fault fault) := by
    intro x h
    cases x <;> cases h
  cases file with
  | none => exact hproblem (clockTime host)
  | some path => exact hproblem (fileTime host path)

theorem stamp_of_no_instant {failure : Failure} (h : instant host file = .error failure) :
    stamp env host file format = fail env [] failure := by
  rw [stamp, printStamp, h]
  rfl

theorem stamp_of_unobserved {t : Int} {failure : Failure} (ht : instant host file = .ok t)
    (h : LocalTime.observe host t = .error failure) :
    stamp env host file format = fail env [] failure := by
  have hprint : printStamp host file format = .error failure := by
    rw [printStamp, ht]
    show (LocalTime.observe host t >>= _) = _
    rw [h]
    rfl
  rw [stamp, hprint]

/-- Once an instant is observed, all that is left is its line. -/
theorem printStamp_of_observe (format : Text) {t : Int} {time : LocalTime} {zone : Zone}
    (ht : instant host file = .ok t) (h : LocalTime.observe host t = .ok (time, zone)) :
    printStamp host file format =
      .ok ([.resolved t time zone, .compiled format], stampLine format time zone) :=
  bind_eq_ok ht (bind_eq_ok h rfl)

/-- A line is printed, and the events on the way to it are told. -/
theorem stamp_of_line {t : Int} {time : LocalTime} {zone : Zone} {line : Text}
    (ht : instant host file = .ok t) (h : LocalTime.observe host t = .ok (time, zone))
    (hline : stampLine format time zone = .ok line) :
    stamp env host file format =
      ⟨0, line ++ ['\n'], env.tell [.resolved t time zone, .compiled format]⟩ := by
  rw [stamp, printStamp_of_observe format ht h, hline]

/-- A line that faults ends the run, and the events on the way to it are told. -/
theorem stamp_of_faulty_line {t : Int} {time : LocalTime} {zone : Zone} {fault : Fault}
    (ht : instant host file = .ok t) (h : LocalTime.observe host t = .ok (time, zone))
    (hline : stampLine format time zone = .error fault) :
    stamp env host file format =
      fail env (env.tell [.resolved t time zone, .compiled format]) (.fault fault) := by
  rw [stamp, printStamp_of_observe format ht h, hline]

/-- Where the run of a stamp ends: at the instant, at its local time, or at the line. -/
theorem stamp_cases (env : Environment) (host : Host) (file : Option Text) (format : Text) :
    (∃ failure, (instant host file = .error failure ∨
        ∃ t, instant host file = .ok t ∧ LocalTime.observe host t = .error failure) ∧
      stamp env host file format = fail env [] failure) ∨
    ∃ t time zone, instant host file = .ok t ∧ LocalTime.observe host t = .ok (time, zone) ∧
      ((∃ line, stampLine format time zone = .ok line ∧ stamp env host file format =
          ⟨0, line ++ ['\n'], env.tell [.resolved t time zone, .compiled format]⟩) ∨
        ∃ fault, stampLine format time zone = .error fault ∧ stamp env host file format =
          fail env (env.tell [.resolved t time zone, .compiled format]) (.fault fault)) := by
  cases ht : instant host file with
  | error failure => exact .inl ⟨failure, .inl rfl, stamp_of_no_instant ht⟩
  | ok t =>
      cases h : LocalTime.observe host t with
      | error failure => exact .inl ⟨failure, .inr ⟨t, rfl, h⟩, stamp_of_unobserved ht h⟩
      | ok seen =>
          refine .inr ⟨t, seen.1, seen.2, rfl, h, ?_⟩
          cases hline : stampLine format seen.1 seen.2 with
          | ok line => exact .inl ⟨line, rfl, stamp_of_line ht h hline⟩
          | error fault => exact .inr ⟨fault, rfl, stamp_of_faulty_line ht h hline⟩

/-! ## The outcome of a whole run -/

theorem output_of_stamp_failure (h : (stamp env host file format).code = 1) :
    (stamp env host file format).output = [] := by
  rcases stamp_cases env host file format with
    ⟨failure, -, hstamp⟩ | ⟨t, time, zone, -, -, ⟨line, -, hstamp⟩ | ⟨fault, -, hstamp⟩⟩
  · rw [hstamp]
    cases failure <;> rfl
  · rw [hstamp] at h
    cases h
  · rw [hstamp]
    rfl

/-- A run with exit code 1 prints nothing. -/
theorem output_of_failure (h : (run env host arguments).code = 1) :
    (run env host arguments).output = [] := by
  cases hparse : Arguments.parse arguments with
  | error p => rw [run_of_rejected hparse]
  | ok a =>
      cases hhelp : a.help with
      | true =>
          rw [run_of_help hparse hhelp] at h
          cases h
      | false =>
          cases hversion : a.version with
          | true =>
              rw [run_of_version hparse hhelp hversion] at h
              cases h
          | false =>
              rw [run_of_stamp hparse hhelp hversion] at h ⊢
              exact output_of_stamp_failure h

/-- Unless its instant faults, the run of a stamp prints a line or reports one problem. -/
theorem stamp_of_no_fault (hmoderate : host.Moderate)
    (h : ∀ t fault, instant host file = .ok t →
      LocalTime.observe host t ≠ .error (.fault fault)) :
    (∃ t line, instant host file = .ok t ∧ instantLine host format t = .ok line ∧
      (stamp env host file format).code = 0 ∧
      (stamp env host file format).output = line ++ ['\n']) ∨
    ∃ p, (instant host file = .error (.problem p) ∨
        ∃ t, instant host file = .ok t ∧ LocalTime.observe host t = .error (.problem p)) ∧
      stamp env host file format = ⟨1, [], env.report p⟩ := by
  rcases stamp_cases env host file format with
    ⟨failure, hwhere, hstamp⟩ | ⟨t, time, zone, ht, hobserve, hline⟩
  · cases failure with
    | problem p => exact .inr ⟨p, hwhere, hstamp⟩
    | fault fault =>
        rcases hwhere with hnone | ⟨t, ht, hobserve⟩
        · exact absurd hnone (instant_ne_fault host file fault)
        · exact absurd hobserve (h t fault ht)
  · rcases hline with ⟨line, hline, hstamp⟩ | ⟨fault, hline, -⟩
    · refine .inl ⟨t, line, ht, bind_eq_ok hobserve (mapError_eq_ok hline), ?_, ?_⟩ <;>
        rw [hstamp]
    · -- the fields of moderate offsets can be built, so the line cannot fault
      obtain ⟨base, increment, hlines⟩ := stampLine_of_observe hmoderate hobserve
      cases hline.symm.trans (hlines format)

/-- **The outcome of a run.** The first unknown argument is reported, whatever else there is; among
known arguments help comes before the version and both before a stamp, which takes the last value of
each option. Wherever the host is not asked, the outcome is the same on every host. -/
theorem run_outcome (env : Environment) (arguments : List Text) :
    -- Some argument is unknown: the first of them is reported.
    ((∃ a ∈ arguments, ¬ Setting.Known a) →
      ∃ before a after, arguments = before ++ a :: after ∧ (∀ b ∈ before, Setting.Known b) ∧
        ¬ Setting.Known a ∧
        ∀ host, run env host arguments = ⟨1, [], env.programName.diagnosticName ++
          ": ERROR: ".toList ++ (Setting.rejection a).message ++ ['\n']⟩) ∧
    ((∀ a ∈ arguments, Setting.Known a) →
      -- Help is asked for.
      ((∃ flag ∈ arguments, flag ∈ Setting.helpFlags) →
        ∀ host, run env host arguments = ⟨0, helpText env.programName.name, []⟩) ∧
      ((∀ flag ∈ arguments, flag ∉ Setting.helpFlags) →
        -- The version is asked for.
        ("--version".toList ∈ arguments →
          ∀ host, run env host arguments = ⟨0, ProgramName.version ++ ['\n'], []⟩) ∧
        -- A stamp is asked for, of a host whose offsets are moderate: its line is printed, or one
        -- problem is reported.
        ("--version".toList ∉ arguments →
          let file := Arguments.lastValue? "--file=".toList arguments
          let format := (Arguments.lastValue? "--format=".toList arguments).getD Format.default
          ∀ host, host.Moderate → (∀ t fault, instant host file = .ok t →
              LocalTime.observe host t ≠ .error (.fault fault)) →
            (∃ t line, instant host file = .ok t ∧ instantLine host format t = .ok line ∧
              (run env host arguments).code = 0 ∧
              (run env host arguments).output = line ++ ['\n']) ∨
            ∃ p, (instant host file = .error (.problem p) ∨
                ∃ t, instant host file = .ok t ∧
                  LocalTime.observe host t = .error (.problem p)) ∧
              run env host arguments = ⟨1, [], env.report p⟩))) ∧
    ∀ host, (run env host arguments).code = 1 → (run env host arguments).output = [] := by
  refine ⟨?unknown, ?known, fun host => output_of_failure⟩
  case unknown =>
    intro h
    obtain ⟨before, a, after, rfl, hbefore, hunknown⟩ := Arguments.exists_first_unknown h
    refine ⟨before, a, after, rfl, hbefore, hunknown, fun host => ?_⟩
    exact run_of_rejected (Arguments.parse_of_unknown hbefore hunknown)
  case known =>
    intro h
    have hparse := Arguments.parse_of_known h
    refine ⟨?help, fun hflags => ⟨?version, ?stamp⟩⟩
    case help =>
      intro hflag host
      exact run_of_help hparse (Arguments.help_withLast.mpr hflag)
    all_goals
      have hhelp : (Arguments.withLast {} arguments).help = false := by
        rw [Bool.eq_false_iff, Ne, Arguments.help_withLast]
        rintro ⟨flag, hflag, hlisted⟩
        exact hflags flag hflag hlisted
    case version =>
      intro hversion host
      exact run_of_version hparse hhelp (Arguments.version_withLast.mpr hversion)
    case stamp =>
      intro hversion file format host hmoderate hfault
      have hno : (Arguments.withLast {} arguments).version = false := by
        rwa [Bool.eq_false_iff, Ne, Arguments.version_withLast]
      have hfile : (Arguments.withLast {} arguments).file = file := Option.or_none
      rw [run_of_stamp hparse hhelp hno, hfile]
      exact stamp_of_no_fault hmoderate hfault

/-- One command line of each kind, for a program in a suite and in UTC. -/
theorem run_outcome_of_each_kind :
    let env : Environment := ⟨some "/usr/bin/stamp".toList, none, some "pkm".toList, none⟩
    let host := Host.fixed 0 "UTC".toList
    run env host ["--help".toList, "--file=".toList, "--frob".toList] =
        ⟨1, [], "pkm stamp: ERROR: ill-formed option '--file='\n".toList⟩ ∧
      run env host ["--version".toList, "-?".toList] = ⟨0, helpText "stamp".toList, []⟩ ∧
      run env host ["--format=%Y".toList, "--version".toList] = ⟨0, "1.0.0\n".toList, []⟩ ∧
      (run env host ["--format=%Y".toList, "--format=%j".toList]).output = "001\n".toList := by
  intro env host
  refine ⟨?_, ?_, ?_, ?_⟩
  · obtain ⟨before, a, after, hsplit, hbefore, hunknown, hrun⟩ :=
      (run_outcome env ["--help".toList, "--file=".toList, "--frob".toList]).1
        ⟨"--file=".toList, by decide, by decide⟩
    cases before with
    | nil =>
        obtain ⟨rfl, -⟩ := List.cons.inj hsplit
        exact absurd (by decide) hunknown
    | cons b before =>
        obtain ⟨-, hsplit⟩ := List.cons.inj hsplit
        cases before with
        | nil =>
            obtain ⟨rfl, -⟩ := List.cons.inj hsplit
            exact hrun host
        | cons c before =>
            obtain ⟨rfl, -⟩ := List.cons.inj hsplit
            exact absurd (hbefore "--file=".toList (by simp)) (by decide)
  · exact ((run_outcome env _).2.1 (by decide)).1 (by decide) host
  · exact (((run_outcome env _).2.1 (by decide)).2 (by decide)).1 (by decide) host
  · have hobserve : LocalTime.observe host 0 =
        .ok (⟨1970, 1, 1, 0, 0, 0, 3, 1, some "UTC".toList, .inactive, 0⟩,
          ⟨0, none, "UTC".toList, "UTC".toList⟩) := eq_ok_of_toOption (by decide +kernel)
    have hline : instantLine host "%j".toList 0 = .ok "001".toList :=
      eq_ok_of_toOption (by decide +kernel)
    have hclear : ∀ t fault, instant host none = .ok t →
        LocalTime.observe host t ≠ .error (.fault fault) := by
      intro t fault ht h
      obtain rfl := Except.ok.inj ht
      cases hobserve.symm.trans h
    have hmoderate : host.Moderate := Host.fixed_moderate (by decide)
    rcases (((run_outcome env ["--format=%Y".toList, "--format=%j".toList]).2.1 (by decide)).2
      (by decide)).2 (by decide) host hmoderate hclear with
        ⟨t, line, ht, hprinted, -, hout⟩ | ⟨p, hp, -⟩
    · obtain rfl := Except.ok.inj ht
      obtain rfl := Except.ok.inj (hline.symm.trans hprinted)
      exact hout
    · rcases hp with hp | ⟨t, ht, hp⟩
      · cases hp
      · obtain rfl := Except.ok.inj ht
        cases hobserve.symm.trans hp

end Datestamp.Run
