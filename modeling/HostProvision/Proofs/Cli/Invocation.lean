import HostProvision.Cli.Program
import HostProvision.Proofs.Confinement
import HostProvision.Proofs.Notices
import HostProvision.Proofs.Transcript

/-! # The course of an invocation

An invocation first makes everything ready for log messages: it warns about their setting and, if a
directory for log files is given, opens these. Then it either carries its command out and reports
how that ended, or breaks off.

* `Procedure.telling` tells some notices and nothing else; warning about the setting is one of
  these, and so is telling how opening the files went.
* **The run of the preparation**, `Cli.Program.run_prepareLogs_of_none` and
  `Cli.Program.run_prepareLogs_of_some`.
* **When a program breaks off**, `Cli.Program.value_prepareLogs_iff`: a host refuses the log file
  although the directory for it is there.
* **The run of an invocation**, `Cli.Program.run_perform`: after the preparation the command is
  carried out, and `Cli.Program.closing` is told of its result.
* **An invocation reports the failure of its command**, `Cli.Program.reports_iff`, and makes the
  calls of its command, `Cli.Program.calls_run_perform`. -/

namespace HostProvision

variable {σ α β : Type}

/-! ## What tells and asks nothing -/

namespace Procedure

/-- Tells some notices, one after another, and is done with a value. -/
def telling (notices : List Notice) (value : α) : Procedure α :=
  notices.foldr notify (done value)

@[simp] theorem telling_nil (value : α) : telling [] value = done value := rfl

@[simp] theorem telling_cons (notice : Notice) (notices : List Notice) (value : α) :
    telling (notice :: notices) value = notify notice (telling notices value) := rfl

/-- Changing the value of what tells some notices changes nothing else. -/
theorem telling_bind_done (notices : List Notice) (value : α) (change : α → β) :
    (telling notices value >>= fun given => done (change given)) =
      telling notices (change value) := by
  induction notices with
  | nil => rfl
  | cons notice notices ih => exact congrArg (notify notice) ih

/-- Showing lines tells of each of them. -/
theorem forM_showLine (lines : List String) :
    lines.forM showLine =
      telling (lines.map fun text => .diagnostics (Utf8.encode (text ++ "\n"))) () := by
  induction lines with
  | nil => rfl
  | cons text lines ih => exact congrArg (notify _) ih

/-- Telling some notices keeps within bounds if each of them does. -/
theorem within_telling {tells : Notice → Prop} {asks : Request → Prop} {notices : List Notice}
    (h : ∀ notice ∈ notices, tells notice) (value : α) :
    (telling notices value).Within tells asks := by
  induction notices with
  | nil => trivial
  | cons notice notices ih =>
    obtain ⟨first, others⟩ := List.forall_mem_cons.mp h
    exact ⟨first, ih others⟩

end Procedure

namespace World

variable (world : World σ)

/-- The record of telling some notices are the notices. -/
@[simp] theorem run_telling (notices : List Notice) (value : α) (state : σ) :
    world.run (.telling notices value) state = ⟨value, notices.map .told, state⟩ := by
  induction notices with
  | nil => rfl
  | cons notice notices ih => rw [Procedure.telling_cons, run, ih, List.map_cons]

/-- What is picked out of some notices that are told. -/
theorem shown_run_telling (pick : Notice → Option β) (notices : List Notice) (value : α)
    (state : σ) :
    (world.run (.telling notices value) state).shown pick = notices.filterMap pick := by
  rw [run_telling, Run.shown, List.filterMap_map]
  rfl

end World

/-! ## Opening log files -/

/-- Whether the program goes on after log files were opened in this way. -/
def LogOpening.goesOn : LogOpening → Bool
  | opened | noDirectory _ => true
  | noFile _ => false

theorem LogOpening.goesOn_eq_true_iff {opening : LogOpening} :
    opening.goesOn = true ↔ ¬∃ report, opening = .noFile report := by
  cases opening <;> simp [goesOn]

namespace Cli.Program

/-- The lines that warn about a setting for log messages. -/
def warningLines (environment : Environment) : List Bytes :=
  (LogFilter.warnings environment.logSetting).map fun text => Utf8.encode (text ++ "\n")

/-- The warnings about a setting for log messages, as they are shown. -/
def warningNotices (environment : Environment) : List Notice :=
  (warningLines environment).map .diagnostics

/-- The line that warns of a directory for log files that cannot be made. -/
def directoryWarning (environment : Environment) (directory : String) (cause : IoError) : Bytes :=
  Utf8.encode (TextStyle.yellow.apply environment.wantsColour "Warning:" ++
    " Failed to create log directory " ++ directory ++ ": " ++ cause.message ++ "\n")

/-- What is told of opening log files. -/
def openingNotice (environment : Environment) (directory : String) : LogOpening → Notice
  | .opened => .event (.loggingTo (Utf8.encode directory))
  | .noDirectory cause => .diagnostics (directoryWarning environment directory cause)
  | .noFile report => .diagnostics report

/-- Opening log files is one request, of which the result is told. -/
theorem openLogs_eq (environment : Environment) (directory : String) :
    openLogs environment directory = .ask (.openLogs (Utf8.encode directory)) fun answer =>
      .telling [openingNotice environment directory answer] answer.goesOn := by
  refine congrArg (Procedure.ask _) (funext fun answer => ?_)
  cases answer <;> rfl

/-- Warning about a setting is telling of its warnings. -/
theorem forM_warnings (environment : Environment) :
    (LogFilter.warnings environment.logSetting).forM Procedure.showLine =
      .telling (warningNotices environment) () := by
  rw [Procedure.forM_showLine, warningNotices, warningLines, List.map_map]
  rfl

/-- Without a directory for log files, getting ready is warning about the setting. -/
theorem prepareLogs_of_none (environment : Environment) (verbosity : Nat) :
    prepareLogs environment ⟨verbosity, none⟩ = .telling (warningNotices environment) true := by
  rw [prepareLogs, forM_warnings]
  exact Procedure.telling_bind_done _ () fun _ => true

/-- With a directory for log files, it is that and then opening the files. -/
theorem prepareLogs_of_some (environment : Environment) (verbosity : Nat) (directory : String) :
    prepareLogs environment ⟨verbosity, some directory⟩ =
      Procedure.telling (warningNotices environment) () >>= fun _ =>
        openLogs environment directory := by
  rw [prepareLogs, forM_warnings]

variable (world : World σ) (environment : Environment) (verbosity : Nat) (state : σ)

/-- **The run of the preparation** without a directory for log files. -/
theorem run_prepareLogs_of_none :
    world.run (prepareLogs environment ⟨verbosity, none⟩) state =
      ⟨true, (warningNotices environment).map .told, state⟩ := by
  rw [prepareLogs_of_none, World.run_telling]

/-- **The run of the preparation** with a directory for log files. -/
theorem run_prepareLogs_of_some (directory : String) :
    world.run (prepareLogs environment ⟨verbosity, some directory⟩) state =
      let opened := world.handle (.openLogs (Utf8.encode directory)) state
      ⟨opened.answer.goesOn,
        (warningNotices environment).map .told ++ (opened.notices.map .told ++
          [.exchange (.openLogs (Utf8.encode directory)) opened.answer,
            .told (openingNotice environment directory opened.answer)]), opened.state⟩ := by
  rw [prepareLogs_of_some, World.run_bind, World.run_telling, openLogs_eq]
  dsimp only
  rw [World.run, World.run_telling]
  rfl

/-- Getting ready for log messages shows lines, tells of the directory and asks to open files. -/
theorem within_prepareLogs {tells : Notice → Prop} {asks : Request → Prop}
    (lines : ∀ octets, tells (.diagnostics octets)) (events : ∀ event, tells (.event event))
    (opens : ∀ directory, asks (.openLogs directory)) (globals : GlobalOptions) :
    (prepareLogs environment globals).Within tells asks := by
  have warns : ∀ notice ∈ warningNotices environment, tells notice := by
    intro notice mem
    obtain ⟨octets, -, rfl⟩ := List.mem_map.mp mem
    exact lines octets
  rw [prepareLogs, forM_warnings]
  -- From here on it does not matter which warnings these are.
  generalize warningNotices environment = warnings at warns ⊢
  refine (Procedure.within_telling warns ()).bind fun _ => ?_
  cases globals.logDirectory with
  | none => trivial
  | some directory =>
    dsimp only
    rw [openLogs_eq]
    refine ⟨opens _, fun answer => ?_⟩
    cases answer with
    | opened => exact ⟨events _, trivial⟩
    | noDirectory cause => exact ⟨lines _, trivial⟩
    | noFile report => exact ⟨lines _, trivial⟩

/-! ## Breaking off -/

/-- A directory for log files is asked for and there is one, but the host refuses a log file in
it. -/
def RefusesLogFile (world : World σ) (globals : GlobalOptions) (state : σ) : Prop :=
  ∃ directory report, globals.logDirectory = some directory ∧
    (world.handle (.openLogs (Utf8.encode directory)) state).answer = .noFile report

variable {world environment verbosity state}

/-- Without a directory for log files no log file is refused. -/
@[simp] theorem not_refusesLogFile_of_none : ¬RefusesLogFile world ⟨verbosity, none⟩ state := by
  rintro ⟨directory, report, given, -⟩
  cases given

/-- With a directory for log files, a log file is refused if that is what the host answers. -/
@[simp] theorem refusesLogFile_of_some_iff {directory : String} :
    RefusesLogFile world ⟨verbosity, some directory⟩ state ↔ ∃ report,
      (world.handle (.openLogs (Utf8.encode directory)) state).answer = .noFile report := by
  constructor
  · rintro ⟨given, report, same, refused⟩
    cases same
    exact ⟨report, refused⟩
  · rintro ⟨report, refused⟩
    exact ⟨directory, report, rfl, refused⟩

/-- **When a program breaks off.** An invocation goes on to its command unless the host refuses the
log file. -/
theorem value_prepareLogs_iff {globals : GlobalOptions} :
    (world.run (prepareLogs environment globals) state).value = true ↔
      ¬RefusesLogFile world globals state := by
  obtain ⟨verbosity, directory⟩ := globals
  cases directory with
  | none =>
    rw [run_prepareLogs_of_none]
    exact iff_of_true rfl not_refusesLogFile_of_none
  | some directory =>
    rw [run_prepareLogs_of_some, refusesLogFile_of_some_iff]
    exact LogOpening.goesOn_eq_true_iff

/-! ## Carrying the command out -/

/-- The exit code for a result. -/
def exitCode : Except Failure Unit → Int32
  | .ok () => 0
  | .error failure => failure.exitCode

/-- What is told at the end of an invocation whose command has this result. -/
def closing (environment : Environment) : Except Failure Unit → List Notice
  | .ok () => [.event .commandDone]
  | .error failure =>
    [.event (.commandFailed failure),
      .diagnostics (Utf8.encode (TextStyle.boldRed.apply environment.wantsColour programName ++
        ": " ++ failure.message ++ "\n"))]

/-- A command is carried out, and then its result is told of, which settles the exit code. -/
theorem carryOut_eq (environment : Environment) (task : Task) :
    carryOut environment task = (do
      let result ← (task.perform environment).run
      Procedure.telling (closing environment result) (exitCode result)) := by
  rw [carryOut]
  congr 1
  funext result
  cases result <;> rfl

/-- The record of carrying a command out is that of the command and what is told of its result. -/
theorem run_carryOut (world : World σ) (environment : Environment) (task : Task) (state : σ) :
    world.run (carryOut environment task) state =
      let carried := world.run (task.perform environment).run state
      ⟨exitCode carried.value,
        carried.entries ++ (closing environment carried.value).map .told, carried.state⟩ := by
  rw [carryOut_eq, World.run_bind]
  dsimp only
  rw [World.run_telling]

/-- **The run of an invocation.** After the preparation the command is carried out, unless the
program breaks off. -/
theorem run_perform (world : World σ) (environment : Environment) (invocation : Invocation)
    (state : σ) :
    world.run (perform environment invocation) state =
      let ready := world.run (prepareLogs environment invocation.globals) state
      if ready.value then
        let carried := world.run (carryOut environment invocation.task) ready.state
        ⟨carried.value, ready.entries ++ carried.entries, carried.state⟩
      else ⟨brokenOffExitCode, ready.entries, ready.state⟩ := by
  rw [perform, World.run_bind]
  dsimp only
  cases (world.run (prepareLogs environment invocation.globals) state).value with
  | true => rw [if_pos rfl, if_pos rfl]
  | false =>
    rw [if_neg Bool.false_ne_true, if_neg Bool.false_ne_true, Procedure.pure_eq_done, World.run,
      List.append_nil]

/-- Without a directory for log files, the command is carried out right away, and the record begins
with the warnings about the setting for log messages. -/
theorem run_perform_of_none (world : World σ) (environment : Environment) (verbosity : Nat)
    (task : Task) (state : σ) :
    world.run (perform environment ⟨⟨verbosity, none⟩, task⟩) state =
      let carried := world.run (carryOut environment task) state
      ⟨carried.value, (warningNotices environment).map .told ++ carried.entries,
        carried.state⟩ := by
  rw [run_perform, run_prepareLogs_of_none]
  rfl

/-- Getting ready for log messages calls nothing. -/
theorem calls_run_prepareLogs (world : World σ) (environment : Environment)
    (globals : GlobalOptions) (state : σ) :
    (world.run (prepareLogs environment globals) state).calls = [] := by
  obtain ⟨verbosity, directory⟩ := globals
  cases directory with
  | none =>
    rw [run_prepareLogs_of_none]
    exact Entry.filterMap_call?_map_told _
  | some directory =>
    rw [run_prepareLogs_of_some, Run.calls, List.filterMap_append, List.filterMap_append,
      Entry.filterMap_call?_map_told, Entry.filterMap_call?_map_told]
    rfl

/-- **The calls of an invocation** are those of its command, if it goes on to that. -/
theorem calls_run_perform (world : World σ) (environment : Environment) (invocation : Invocation)
    (state : σ) :
    (world.run (perform environment invocation) state).calls =
      let ready := world.run (prepareLogs environment invocation.globals) state
      if ready.value then (world.run (invocation.task.perform environment).run ready.state).calls
      else [] := by
  have calls := calls_run_prepareLogs world environment invocation.globals state
  rw [Run.calls] at calls
  rw [run_perform]
  dsimp only
  cases (world.run (prepareLogs environment invocation.globals) state).value with
  | false =>
    rw [if_neg Bool.false_ne_true, if_neg Bool.false_ne_true, Run.calls]
    exact calls
  | true =>
    rw [if_pos rfl, if_pos rfl, run_carryOut]
    simp only [Run.calls, List.filterMap_append, calls, Entry.filterMap_call?_map_told,
      List.nil_append, List.append_nil]

/-- Without a directory for log files, the calls of an invocation are those of its command. -/
theorem calls_run_perform_of_none (world : World σ) (environment : Environment) (verbosity : Nat)
    (task : Task) (state : σ) :
    (world.run (perform environment ⟨⟨verbosity, none⟩, task⟩) state).calls =
      (world.run (task.perform environment).run state).calls := by
  rw [calls_run_perform, run_prepareLogs_of_none]
  rfl

/-! ## Reporting a failure -/

/-- The failure that a run reports at its end, if there is one: the log tells of it, and then a line
does. -/
def Reports (environment : Environment) (failure : Failure) (run : Run σ Int32) : Prop :=
  (closing environment (.error failure)).map .told <:+ run.entries

/-- What is told of a failure tells which it is. -/
theorem closing_suffix_iff {environment : Environment} {failure : Failure}
    {result : Except Failure Unit} {before : List Entry} :
    (closing environment (.error failure)).map .told <:+
        before ++ (closing environment result).map .told ↔ result = .error failure := by
  constructor
  · intro suffix
    cases result with
    | ok done =>
      -- The record of a success ends with a log message, that of a failure with a line.
      obtain ⟨first, same⟩ := suffix
      have last := congrArg List.getLast? same
      simp [closing] at last
    | error other =>
      have same := List.IsSuffix.eq_of_length
        (List.suffix_of_suffix_length_le suffix (List.suffix_append before _) (by simp [closing]))
        (by simp [closing])
      simp only [closing, List.map_cons, List.cons.injEq, Entry.told.injEq, Notice.event.injEq,
        Event.commandFailed.injEq] at same
      rw [same.1]
  · rintro rfl
    exact List.suffix_append before _

/-- The preparation reports no failure of a command when the program breaks off. -/
theorem not_closing_suffix_run_prepareLogs {world : World σ} {environment : Environment}
    {globals : GlobalOptions} {state : σ}
    (brokenOff : (world.run (prepareLogs environment globals) state).value = false)
    (failure : Failure) :
    ¬(closing environment (.error failure)).map .told <:+
      (world.run (prepareLogs environment globals) state).entries := by
  obtain ⟨verbosity, directory⟩ := globals
  cases directory with
  | none =>
    rw [run_prepareLogs_of_none] at brokenOff
    cases brokenOff
  | some directory =>
    -- What comes before the last line is a log message after a failure, and here a request.
    intro suffix
    rw [run_prepareLogs_of_some] at suffix
    dsimp only at suffix
    rw [← List.append_assoc] at suffix
    have same := List.IsSuffix.eq_of_length
      (List.suffix_of_suffix_length_le suffix (List.suffix_append _ _) (by simp [closing]))
      (by simp [closing])
    simp [closing] at same

/-- **An invocation reports the failure of its command**, if it goes on to that, and no other. -/
theorem reports_iff {world : World σ} {environment : Environment} {invocation : Invocation}
    {state : σ} {failure : Failure} :
    Reports environment failure (world.run (perform environment invocation) state) ↔
      let ready := world.run (prepareLogs environment invocation.globals) state
      ready.value = true ∧
        (world.run (invocation.task.perform environment).run ready.state).value =
          .error failure := by
  rw [Reports, run_perform]
  dsimp only
  cases goesOn : (world.run (prepareLogs environment invocation.globals) state).value with
  | false =>
    exact iff_of_false (not_closing_suffix_run_prepareLogs goesOn failure)
      fun h => Bool.false_ne_true h.1
  | true =>
    rw [if_pos rfl, run_carryOut]
    dsimp only
    rw [← List.append_assoc, closing_suffix_iff]
    exact (and_iff_right rfl).symm

end Cli.Program

end HostProvision
