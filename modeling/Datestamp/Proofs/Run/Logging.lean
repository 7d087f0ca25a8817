import Datestamp.Proofs.Run.Outcome
import Datestamp.Proofs.Text.OneLine

/-!
# Events change nothing else

A run tells its events in the diagnostics, ahead of anything that it reports. Two events arise, once
the instant is resolved and the format comes to be compiled, and the setting decides which of them
are told. Whatever it is, the exit code, what is printed and what is reported stay the same; and
since values from outside are quoted, an event takes one line for every format (`Run.run_told`).
-/

namespace Datestamp

/-! ## An event takes one line -/

namespace Event

open Text

/-- A level has a name of one line, so an event takes one line when all its other parts do. -/
theorem oneLine_line {e : Event} (htarget : OneLine e.target) (hmessage : OneLine e.message)
    (hvalues : ∀ v ∈ e.values, OneLine v.1 ∧ OneLine v.2) : OneLine e.line := by
  have hlevel : OneLine e.level.name := by cases e.level <;> decide
  simp only [line, oneLine_append, oneLine_cons]
  refine ⟨⟨⟨⟨hlevel, by decide, htarget⟩, by decide⟩, hmessage⟩, OneLine.flatMap ?_⟩
  intro v hv
  obtain ⟨hname, hvalue⟩ := hvalues v hv
  exact oneLine_append.mpr ⟨oneLine_cons.mpr ⟨by decide, hname⟩,
    oneLine_cons.mpr ⟨by decide, hvalue⟩⟩

theorem oneLine_showDaylight (d : Daylight) : OneLine (showDaylight d) := by
  cases d <;> decide

theorem oneLine_showOffset (offset : Option Int) : OneLine (showOffset offset) := by
  cases offset with
  | none => decide
  | some seconds =>
      show OneLine ("Some(".toList ++ Decimal.numeral seconds ++ [')'])
      rw [oneLine_append, oneLine_append]
      exact ⟨⟨by decide, .numeral seconds⟩, by decide⟩

theorem oneLine_resolved (t : Int) (time : LocalTime) (zone : Zone) :
    OneLine (resolved t time zone).line := by
  apply oneLine_line
  · show OneLine "stamp".toList
    decide
  · show OneLine "resolved timestamp".toList
    decide
  · simp only [resolved, List.forall_mem_cons]
    exact ⟨⟨by decide, .numeral t⟩, ⟨by decide, oneLine_showDaylight _⟩, ⟨by decide, .numeral _⟩,
      ⟨by decide, oneLine_showOffset _⟩, ⟨by decide, .numeral _⟩, nofun⟩

/-- The format may be any text, since it is quoted. -/
theorem oneLine_compiled (format : Text) : OneLine (compiled format).line := by
  apply oneLine_line
  · show OneLine "stamp::format".toList
    decide
  · show OneLine "compiled format".toList
    decide
  · simp only [compiled, List.forall_mem_cons]
    exact ⟨⟨by decide, .quote format⟩, ⟨by decide, .quote _⟩, nofun⟩

/-! ## Which events are told -/

/-- The events that a setting wants to be told. -/
def wanted (setting : Option Text) (events : List Event) : List Event :=
  match setting with
  | none => []
  | some specification =>
    events.filter fun e => EventFilter.accepts (EventFilter.parse specification) e.level e.target

/-- The lines of events, each ended by a line feed. -/
def lines (events : List Event) : Text := events.flatMap fun e => e.line ++ ['\n']

theorem mem_of_mem_wanted {setting : Option Text} {events : List Event} {e : Event}
    (h : e ∈ wanted setting events) : e ∈ events := by
  cases setting with
  | none => cases h
  | some specification => exact (List.mem_filter.mp h).1

theorem split_lines {events : List Event} (h : ∀ e ∈ events, OneLine e.line) :
    split '\n' (lines events) = events.map line ++ [[]] := by
  have hlines : ∀ t ∈ events.map line, OneLine t := by
    intro t ht
    obtain ⟨e, he, rfl⟩ := List.mem_map.mp ht
    exact h e he
  rw [← Text.split_lines hlines, List.flatMap_map, lines]

/-- What is told of events of one line comes apart again into their lines. -/
theorem split_wanted {events : List Event} (h : ∀ e ∈ events, OneLine e.line)
    (setting : Option Text) : (∀ e ∈ wanted setting events, OneLine e.line) ∧
      split '\n' (lines (wanted setting events)) = (wanted setting events).map line ++ [[]] := by
  have hwanted : ∀ e ∈ wanted setting events, OneLine e.line :=
    fun e he => h e (mem_of_mem_wanted he)
  exact ⟨hwanted, split_lines hwanted⟩

end Event

/-- The surroundings with another setting for the events. -/
def Environment.withEvents (env : Environment) (setting : Option Text) : Environment :=
  { env with events := setting }

theorem Environment.tell_withEvents (env : Environment) (setting : Option Text)
    (events : List Event) :
    (env.withEvents setting).tell events = Event.lines (Event.wanted setting events) := by
  cases setting <;> rfl

namespace Run

/-- A run that comes to compile its format: it asks for a stamp, and the instant is resolved. -/
structure Compiles (host : Host) (arguments : List Text) (a : Arguments) (t : Int)
    (time : LocalTime) (zone : Zone) : Prop where
  parse : Arguments.parse arguments = .ok a
  help : a.help = false
  version : a.version = false
  instant : instant host a.file = .ok t
  observe : LocalTime.observe host t = .ok (time, zone)

variable {env : Environment} {host : Host} {arguments : List Text}

/-- Apart from the lines of `events` that are wanted, ahead of its diagnostics, the outcome of a run
is the same under every setting. -/
def Tells (env : Environment) (host : Host) (arguments : List Text) (events : List Event) : Prop :=
  ∃ code output final, ∀ setting, run (env.withEvents setting) host arguments =
    ⟨code, output, Event.lines (Event.wanted setting events) ++ final⟩

/-- A run that has one outcome under every setting tells nothing. -/
theorem tells_nothing {o : Outcome}
    (h : ∀ setting, run (env.withEvents setting) host arguments = o) :
    Tells env host arguments [] := by
  refine ⟨o.code, o.output, o.diagnostics, fun setting => ?_⟩
  rw [h]
  cases setting <;> rfl

theorem fail_withEvents (env : Environment) (setting : Option Text) (failure : Failure) :
    fail (env.withEvents setting) [] failure = fail env [] failure := by
  cases failure <;> rfl

/-- Without a local time to print, the failure is the same under every setting. -/
theorem stamp_withEvents_of_unobserved {file : Option Text} (format : Text)
    (h : ∀ t seen, instant host file = .ok t →
      LocalTime.observe host t ≠ .ok seen) :
    ∃ failure, ∀ setting, stamp (env.withEvents setting) host file format =
      fail env [] failure := by
  cases ht : instant host file with
  | error failure =>
      refine ⟨failure, fun setting => ?_⟩
      rw [stamp_of_no_instant ht, fail_withEvents]
  | ok t =>
      cases hobserve : LocalTime.observe host t with
      | error failure =>
          refine ⟨failure, fun setting => ?_⟩
          rw [← fail_withEvents env setting]
          exact stamp_of_unobserved ht hobserve
      | ok seen => exact absurd hobserve (h t seen ht)

theorem tells_of_compiles {a : Arguments} {t : Int} {time : LocalTime} {zone : Zone}
    (h : Compiles host arguments a t time zone) :
    Tells env host arguments [.resolved t time zone, .compiled a.format] := by
  cases hline : stampLine a.format time zone with
  | ok line =>
      refine ⟨0, line ++ ['\n'], [], fun setting => ?_⟩
      rw [run_of_stamp h.parse h.help h.version, stamp_of_line h.instant h.observe hline,
        Environment.tell_withEvents, List.append_nil]
  | error fault =>
      refine ⟨101, [], fault.message ++ ['\n'], fun setting => ?_⟩
      rw [run_of_stamp h.parse h.help h.version, stamp_of_faulty_line h.instant h.observe hline,
        Environment.tell_withEvents, fail, List.append_assoc]

/-- A run that ends in a rejected argument, in help or in the version, or without an instant or its
local time, tells nothing. -/
theorem tells_of_not_compiles (h : ¬ ∃ a t time zone, Compiles host arguments a t time zone) :
    Tells env host arguments [] := by
  cases hparse : Arguments.parse arguments with
  | error p =>
      exact tells_nothing (o := ⟨1, [], env.report p⟩) fun setting => run_of_rejected hparse
  | ok a =>
      cases hhelp : a.help with
      | true =>
          exact tells_nothing (o := ⟨0, helpText env.programName.name, []⟩)
            fun setting => run_of_help hparse hhelp
      | false =>
          cases hversion : a.version with
          | true => exact tells_nothing fun setting => run_of_version hparse hhelp hversion
          | false =>
              obtain ⟨failure, hstamp⟩ := stamp_withEvents_of_unobserved a.format
                fun t seen ht hobserve =>
                  h ⟨a, t, seen.1, seen.2, hparse, hhelp, hversion, ht, hobserve⟩
              exact tells_nothing fun setting =>
                (run_of_stamp hparse hhelp hversion).trans (hstamp setting)

/-- **Telling events changes nothing else.** Under every setting a run has the same exit code,
prints the same and reports the same; ahead of the report stand the lines of those events that the
setting wants, in order. Two events can arise, and do so together, in a run that comes to compile
its format; in any other run none does. Each line of an event is one line, whatever the format. -/
theorem run_told (env : Environment) (host : Host) (arguments : List Text) :
    ∃ code output final events,
      (∀ setting, run (env.withEvents setting) host arguments =
        ⟨code, output, Event.lines (Event.wanted setting events) ++ final⟩) ∧
      ((∃ a t time zone, Compiles host arguments a t time zone ∧
          events = [.resolved t time zone, .compiled a.format] ∧
          events.map (fun e => (e.level, e.target, e.message)) =
            [(.debug, "stamp".toList, "resolved timestamp".toList),
              (.trace, "stamp::format".toList, "compiled format".toList)]) ∨
        (¬ ∃ a t time zone, Compiles host arguments a t time zone) ∧ events = []) ∧
      ∀ setting, (∀ e ∈ Event.wanted setting events, Text.OneLine e.line) ∧
        Text.split '\n' (Event.lines (Event.wanted setting events)) =
          (Event.wanted setting events).map Event.line ++ [[]] := by
  by_cases h : ∃ a t time zone, Compiles host arguments a t time zone
  · obtain ⟨a, t, time, zone, hcompiles⟩ := h
    obtain ⟨code, output, final, hrun⟩ := tells_of_compiles hcompiles
    refine ⟨code, output, final, _, hrun, .inl ⟨a, t, time, zone, hcompiles, rfl, rfl⟩, ?_⟩
    apply Event.split_wanted
    intro e he
    rcases List.mem_cons.mp he with rfl | he
    · exact Event.oneLine_resolved t time zone
    · obtain rfl := List.mem_singleton.mp he
      exact Event.oneLine_compiled a.format
  · obtain ⟨code, output, final, hrun⟩ := tells_of_not_compiles h
    exact ⟨code, output, final, [], hrun, .inr ⟨h, rfl⟩, Event.split_wanted nofun⟩

/-- A format with a line feed in it, and a setting that wants one of the two events. -/
theorem run_told_of_broken_format :
    let env : Environment := ⟨none, none, none, none⟩
    let host := Host.fixed 0 "UTC".toList
    (run (env.withEvents (some "stamp::format=trace".toList)) host
        ["--format=a\nb".toList]).diagnostics =
      "TRACE stamp::format: compiled format format=\"a\\nb\" template=\"a\\nb\"\n".toList ++
        (run (env.withEvents none) host ["--format=a\nb".toList]).diagnostics := by
  intro env host
  have hparse : Arguments.parse ["--format=a\nb".toList] = .ok { format := "a\nb".toList } := rfl
  have hobserve : LocalTime.observe host 0 =
      .ok (⟨1970, 1, 1, 0, 0, 0, 3, 1, some "UTC".toList, .inactive, 0⟩,
        ⟨0, none, "UTC".toList, "UTC".toList⟩) := eq_ok_of_toOption (by decide +kernel)
  obtain ⟨code, output, final, events, hrun, hevents, -⟩ :=
    run_told env host ["--format=a\nb".toList]
  rcases hevents with ⟨a, t, time, zone, hcompiles, rfl, -⟩ | ⟨hno, -⟩
  · obtain rfl := Except.ok.inj (hparse.symm.trans hcompiles.parse)
    have hwanted : Event.wanted (some "stamp::format=trace".toList)
        [.resolved t time zone, .compiled "a\nb".toList] = [.compiled "a\nb".toList] := rfl
    have hline : Event.lines [.compiled "a\nb".toList] =
        "TRACE stamp::format: compiled format format=\"a\\nb\" template=\"a\\nb\"\n".toList := by
      decide +kernel
    rw [hrun, hrun, hwanted, hline]
    rfl
  · exact absurd ⟨_, 0, _, _, hparse, rfl, rfl, rfl, hobserve⟩ hno

end Run

end Datestamp
