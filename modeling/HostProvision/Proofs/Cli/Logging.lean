import HostProvision.Proofs.Cli.LogFiles
import HostProvision.Proofs.Cli.Verbosity
import HostProvision.Proofs.Provision.Timing

/-! # Log messages change nothing else

How much is logged is up to the command line and to one variable of the environment. The filter that
they ask for is no part of what the program does, so two invocations that differ in it have the same
course.

* **The environment**, `Task.perform_eq`: no command reads the variable.
* **The clock**, `Task.parallel_perform`: a command goes by no measured time.
* **Logging only observes**, `Program.logging_observes`: calls, exit code, output and what is added
  to files are the same, and up to measured times so is what is shown besides lines of the log. -/

namespace HostProvision

variable {σ τ α : Type}

/-- Results that agree on equal values are equal. -/
theorem Agree.eq {result other : Except Failure α} (h : Agree Eq result other) :
    result = other := by
  cases h with
  | ok same => rw [same]
  | error failure => rfl

namespace Cli

/-! ## The setting for log messages -/

/-- A setting for log messages is well-formed if each of its directives can be used. -/
def LogFilter.WellFormed (setting : String) : Prop :=
  ∀ text ∈ directiveTexts setting, ∃ directive, LogDirective.parse text = .ok directive

/-- There are no warnings about a well-formed setting, and about no other. -/
theorem LogFilter.warnings_eq_nil_iff {setting : String} :
    warnings setting = [] ↔ WellFormed setting := by
  rw [warnings, List.filterMap_eq_nil_iff, WellFormed]
  refine forall₂_congr fun text _ => ?_
  cases LogDirective.parse text <;> simp

namespace Environment

/-- Environments that differ in the setting for log messages at most. -/
def SameButLogging (environment other : Environment) : Prop :=
  ∀ name, name ≠ "BREWUP_LOG" → environment name = other name

namespace SameButLogging

variable {environment other : Environment} (same : environment.SameButLogging other)

include same

theorem searchPath_eq : environment.searchPath = other.searchPath :=
  same "PATH" (by decide)

theorem wantsColour_eq : environment.wantsColour = other.wantsColour := by
  rw [wantsColour, wantsColour, same "CLICOLOR_FORCE" (by decide)]

/-- The settings are read in the same way. -/
theorem load_eq : Settings.load environment = Settings.load other := by
  have value (name : String) (unlike : name ≠ "BREWUP_LOG") :
      Settings.value? environment.variables name = Settings.value? other.variables name := by
    rw [Settings.value?, Settings.value?, Environment.variables, Environment.variables,
      same name unlike]
  have root := value Settings.rootVariable (by decide)
  have asked : Settings.asked environment.variables = Settings.asked other.variables :=
    Settings.asked_congr root (value Settings.brewVariable (by decide))
      (value Settings.pipVariable (by decide))
  have events : Settings.readingEvents environment.variables =
      Settings.readingEvents other.variables := by
    rw [Settings.readingEvents, Settings.readingEvents, asked, root]
  have result : Settings.ofVariables environment.variables =
      Settings.ofVariables other.variables := by
    rw [Settings.ofVariables, Settings.ofVariables, asked]
  have read : Settings.read environment.variables = Settings.read other.variables := by
    rw [Settings.read, Settings.read, events, result]
  exact congrArg (fun step => Step.log .loadingSettings >>= fun _ => step) read

end SameButLogging

end Environment

/-- **No command reads the setting for log messages.** -/
theorem Task.perform_eq {environment other : Environment} (same : environment.SameButLogging other)
    (task : Task) : task.perform environment = task.perform other := by
  cases task with
  | run options =>
    simp only [Task.perform, RunOptions.perform, RunOptions.publish, same.load_eq,
      same.wantsColour_eq, same.searchPath_eq]
  | ensure options =>
    simp only [Task.perform, EnsureOptions.perform, same.load_eq, same.wantsColour_eq]
  | compilers => rfl

/-! ## Measured times -/

/-- The time of a record is left as it is when the record is shown in a style. -/
theorem TextStyle.apply_record (style : TextStyle) (record : StepRecord) :
    style.apply true record.render =
      style.start ++ String.ofList (style.resume (record.name ++ " ").toList ++ ['(']) ++
        record.elapsed.render ++ (")" ++ reset) := by
  have chars : record.render.toList =
      (record.name ++ " ").toList ++ '(' :: (record.elapsed.render ++ ")").toList := by
    simp [StepRecord.render]
  have plain : '\x1b' ∉ (record.elapsed.render ++ ")").toList := by
    rw [String.toList_append, List.mem_append, not_or]
    exact ⟨fun mem => absurd (Elapsed.isAlphanum_of_mem_render mem) (by decide), by decide⟩
  rw [apply, if_pos rfl, chars, resume_append, resume_eq_self style plain, paint]
  simp [← String.toList_inj]

/-- Records of one step are shown in a style with the time that each took. -/
theorem TextStyle.sameButTime_apply {record other : StepRecord} (named : record.name = other.name)
    (style : TextStyle) (coloured : Bool) :
    SameButTime (style.apply coloured record.render) (style.apply coloured other.render) := by
  cases coloured with
  | false => exact .renderRecord named
  | true =>
    rw [style.apply_record, style.apply_record, named]
    exact .inr ⟨_, _, record.elapsed, other.elapsed, rfl, rfl⟩

namespace RunOptions

/-- Reports of the same steps are summed up in the same lines, except for measured times. -/
theorem sameButTime_summary (coloured : Bool) {report other : Report}
    (same : Plan.SameReport report other) :
    List.Forall₂ SameButTime (summary coloured report) (summary coloured other) := by
  have named : List.Forall₂ (fun step another : StepRecord => step.name = another.name)
      report.steps other.steps := by
    have names : List.Forall₂ Eq report.stepNames other.stepNames := by
      rw [List.forall₂_eq_eq_eq]
      exact same.1
    rwa [Report.stepNames, Report.stepNames, List.forall₂_map_left_iff,
      List.forall₂_map_right_iff] at names
  have steps : List.Forall₂ SameButTime (report.steps.map fun step => "    " ++ step.render)
      (other.steps.map fun step => "    " ++ step.render) := by
    rw [List.forall₂_map_left_iff, List.forall₂_map_right_iff]
    exact named.imp fun step another h => (SameButTime.renderRecord h).prepend "    "
  have total : SameButTime
      ("    total: " ++ (report.totalElapsed?.getD .longest).render)
      ("    total: " ++ (other.totalElapsed?.getD .longest).render) :=
    (SameButTime.render _ _).prepend "    total: "
  exact .cons (.inl rfl) (List.rel_append steps (.cons total .nil))

/-- Provisioning the host goes by no measured time, as a dry run as well. -/
theorem parallel_provision (options : RunOptions) (settings : Settings) (compiler : Compiler) :
    Step.Parallel Plan.SameReport (options.provision settings compiler)
      (options.provision settings compiler) := by
  have plan := (Plan.standard compiler settings).parallel_provision settings.tooling
  rw [provision]
  by_cases dry : options.dryRun
  · rw [if_pos dry]
    exact plan.rehearse
  · rw [if_neg dry]
    exact plan

/-- The command goes by no measured time. -/
theorem parallel_perform (options : RunOptions) (environment : Environment) :
    Step.Parallel Eq (options.perform environment) (options.perform environment) := by
  refine (Step.parallel_refl (Step.within_ofExcept _)).bind fun compiler _ chosen => ?_
  subst chosen
  refine (Step.parallel_refl (Settings.within_load (fun _ => trivial) environment)).bind
    fun settings _ loaded => ?_
  subst loaded
  refine Step.Parallel.inSpan ((options.parallel_provision settings compiler).bind
    fun report other same => ?_) _
  refine (Step.parallel_forM_showLine (sameButTime_summary _ same)).bind fun _ _ _ => ?_
  have timeless : (options.publish environment other.pathUpdate).Timeless := by
    refine (options.within_publish environment other.pathUpdate).mono (fun _ _ => trivial) ?_
    rintro request ⟨file, content, -, rfl⟩
    nofun
  rw [same.2]
  exact Step.parallel_refl timeless

end RunOptions

/-- The command goes by no measured time. -/
theorem EnsureOptions.parallel_perform (options : EnsureOptions) (environment : Environment) :
    Step.Parallel Eq (options.perform environment) (options.perform environment) := by
  refine (Step.parallel_refl (Settings.within_load (fun _ => trivial) environment)).bind
    fun settings _ loaded => ?_
  subst loaded
  have ensure := settings.tooling.parallel_ensure options.formula
  let shown (measured : EnsureOutcome × StepRecord) : String :=
    headlineMark environment.wantsColour ++
      TextStyle.bold.apply environment.wantsColour measured.2.render ++ " " ++ measured.1.tag
  have shows (measured other : EnsureOutcome × StepRecord)
      (related : Step.SameMeasured Eq measured other) :
      Step.Parallel Eq (ExceptT.lift (Procedure.showLine (shown measured)))
        (ExceptT.lift (Procedure.showLine (shown other))) := by
    have line : SameButTime (shown measured) (shown other) := by
      dsimp only [shown]
      rw [related.1]
      exact (((TextStyle.sameButTime_apply related.2 .bold environment.wantsColour).prepend
        (headlineMark environment.wantsColour)).append " ").append other.1.tag
    exact Step.parallel_showLine line
  dsimp only
  by_cases dry : options.dryRun
  · rw [if_pos dry]
    exact ensure.rehearse.bind shows
  · rw [if_neg dry]
    exact ensure.bind shows

/-- **No command goes by measured times.** -/
theorem Task.parallel_perform (environment : Environment) (task : Task) :
    Step.Parallel Eq (task.perform environment) (task.perform environment) := by
  cases task with
  | run options => exact options.parallel_perform environment
  | ensure options => exact options.parallel_perform environment
  | compilers =>
    exact Step.parallel_refl (Step.within_lift
      (Procedure.within_forM fun _ _ => ⟨trivial, trivial⟩))

namespace Program

/-! ## Invocations -/

/-- What is told of the result of a command does not depend on the setting for log messages. -/
theorem closing_eq {environment other : Environment} (same : environment.SameButLogging other)
    (result : Except Failure Unit) : closing environment result = closing other result := by
  cases result with
  | ok done => rfl
  | error failure => rw [closing, closing, same.wantsColour_eq]

/-- With a well-formed setting for log messages and without a directory for log files, the command
is carried out right away. -/
theorem perform_eq_of_wellFormed {environment : Environment}
    (wellFormed : LogFilter.WellFormed environment.logSetting) (verbosity : Nat) (task : Task) :
    perform environment ⟨⟨verbosity, none⟩, task⟩ = carryOut environment task := by
  rw [perform, prepareLogs_of_none, warningNotices, warningLines,
    LogFilter.warnings_eq_nil_iff.mpr wellFormed]
  rfl

/-- Invocations that differ in what they ask for of log messages are parallel. -/
theorem parallel_perform {environment other : Environment}
    (same : environment.SameButLogging other)
    (wellFormed : LogFilter.WellFormed environment.logSetting)
    (wellFormed' : LogFilter.WellFormed other.logSetting) (verbosity verbosity' : Nat)
    (task : Task) :
    Procedure.Parallel Eq (perform environment ⟨⟨verbosity, none⟩, task⟩)
      (perform other ⟨⟨verbosity', none⟩, task⟩) := by
  rw [perform_eq_of_wellFormed wellFormed, perform_eq_of_wellFormed wellFormed', carryOut_eq,
    carryOut_eq, ← task.perform_eq same]
  refine Procedure.Parallel.bind (task.parallel_perform environment) fun result another agree => ?_
  obtain rfl := agree.eq
  rw [closing_eq same]
  exact Procedure.parallel_refl (Procedure.within_telling (fun _ _ => trivial) _)

/-- What the user sees of a run of the program. -/
def display (environment : Environment) (args : List String) (run : Run σ Int32) : Display :=
  Display.render (LogFilter.ofSetting environment.logSetting (verbosity environment args))
    (LogFilter.defaultDetail (verbosity environment args)) run.entries

/-- **Logging only observes.** Take two command lines without a directory for log files that ask for
the same command, each with log messages of any detail; in front of any of them more detail can be
asked for as often as one likes. Take environments that differ at most in the setting for log
messages, which is well-formed or missing in both, and any host, or two hosts that only their clocks
tell apart. The invocations make the same calls with the same answers, end with the same exit code,
add the same octets to the same files and print the same output. Apart from lines of the log they
show the same on the diagnostic stream, in the same order and up to measured times. -/
theorem logging_observes {first : World σ} {second : World τ} {state : σ} {start : τ}
    (hosts : World.Alike first state second start) {environment other : Environment}
    (same : environment.SameButLogging other)
    (wellFormed : LogFilter.WellFormed environment.logSetting)
    (wellFormed' : LogFilter.WellFormed other.logSetting) {args args' : List String}
    {verbosity verbosity' : Nat} {task : Task}
    (read : interpret environment.compiler args = .ok ⟨⟨verbosity, none⟩, task⟩)
    (read' : interpret other.compiler args' = .ok ⟨⟨verbosity', none⟩, task⟩) :
    let run := first.run (main environment args) state
    let run' := second.run (main other args') start
    let shown := display environment args run
    let shown' := display other args' run'
    (∀ times, ∃ count, interpret environment.compiler (List.replicate times "-v" ++ args) =
        .ok ⟨⟨count, none⟩, task⟩) ∧
      run.calls = run'.calls ∧ run.value = run'.value ∧ run.appended = run'.appended ∧
      shown.outputText = shown'.outputText ∧
      Display.AddsLogLines run.diagnostics shown.diagnostics ∧
      Display.AddsLogLines run'.diagnostics shown'.diagnostics ∧
      List.Forall₂ SameOctetsButTime run.diagnostics run'.diagnostics := by
  have parallel : Procedure.Parallel Eq (main environment args) (main other args') := by
    rw [main, main, read, read']
    exact parallel_perform same wellFormed wellFormed' verbosity verbosity' task
  intro run run' shown shown'
  obtain ⟨entries, value⟩ := parallel.run hosts
  have outputs : run.outputs = run'.outputs :=
    filterMap_eq_of_alike (fun _ _ => Entry.Alike.output?_eq) entries
  have text : shown.outputText = shown'.outputText := by
    dsimp only [shown, shown', display]
    rw [Display.outputText_render, Display.outputText_render, outputs]
  have calls : run.calls = run'.calls :=
    filterMap_eq_of_alike (fun _ _ => Entry.Alike.call?_eq) entries
  have appended : run.appended = run'.appended :=
    filterMap_eq_of_alike (fun _ _ => Entry.Alike.appended?_eq) entries
  have lines : List.Forall₂ SameOctetsButTime run.diagnostics run'.diagnostics :=
    List.rel_filterMap (fun _ _ alike => alike.diagnostics?) entries
  exact ⟨interpret_verbose read, calls, value, appended, text,
    Display.addsLogLines_render _ _ run, Display.addsLogLines_render _ _ run', lines⟩

/-- A host that grants whatever it is asked for, with a clock that goes on by some seconds whenever
it is read. -/
def paced (seconds : Nat) : World Nat where
  handle
    | .clock, readings =>
      ⟨(Elapsed.ofParts? (readings * seconds) 0).getD .longest, [], readings + 1⟩
    | .command mode line, readings => ⟨(Request.command mode line).someAnswer, [], readings⟩
    | .lookup program, readings => ⟨(Request.lookup program).someAnswer, [], readings⟩
    | .append file content, readings => ⟨(Request.append file content).someAnswer, [], readings⟩
    | .openLogs directory, readings => ⟨(Request.openLogs directory).someAnswer, [], readings⟩

/-- Such a host tells nothing. -/
theorem notices_paced (seconds : Nat) (request : Request) (readings : Nat) :
    ((paced seconds).handle request readings).notices = [] := by
  cases request <;> rfl

/-- What such a host answers does not depend on its clock, except for the time. -/
theorem answer_paced (seconds : Nat) {request : Request} (untimed : request ≠ .clock)
    (readings : Nat) : ((paced seconds).handle request readings).answer = request.someAnswer := by
  cases request with
  | clock => exact absurd rfl untimed
  | command _ _ | lookup _ | append _ _ | openLogs _ => rfl

/-- Such hosts differ in nothing but their clocks. -/
theorem alike_paced (seconds others : Nat) : World.Alike (paced seconds) 0 (paced others) 0 where
  answers _ _ untimed := (answer_paced seconds untimed _).trans (answer_paced others untimed _).symm
  notices _ _ := (notices_paced seconds _ _).trans (notices_paced others _ _).symm

/-- An environment without any variables. -/
def bareEnvironment : Environment := fun _ => none

/-- On a slower host and with more detail of log messages a command shows another time and more
lines, but no other difference. -/
theorem logging_observes_debug :
    let args := ["ensure", "wget"]
    let args' := ["-vv", "ensure", "wget"]
    let run := (paced 1).run (main bareEnvironment args) 0
    let run' := (paced 60).run (main debugEnvironment args') 0
    let shown := display bareEnvironment args run
    let shown' := display debugEnvironment args' run'
    World.Alike (paced 1) 0 (paced 60) 0 ∧ bareEnvironment.SameButLogging debugEnvironment ∧
      LogFilter.WellFormed bareEnvironment.logSetting ∧
      LogFilter.WellFormed debugEnvironment.logSetting ∧
      run.diagnostics ≠ run'.diagnostics ∧
      shown.diagnostics.length < shown'.diagnostics.length ∧
      (∀ times, ∃ count, interpret none (List.replicate times "-v" ++ args) =
        .ok ⟨⟨count, none⟩, .ensure { formula := ⟨"wget", []⟩ }⟩) ∧
      run.calls = run'.calls ∧ run.value = run'.value ∧ run.appended = run'.appended ∧
      shown.outputText = shown'.outputText ∧
      Display.AddsLogLines run.diagnostics shown.diagnostics ∧
      Display.AddsLogLines run'.diagnostics shown'.diagnostics ∧
      List.Forall₂ SameOctetsButTime run.diagnostics run'.diagnostics := by
  have same : bareEnvironment.SameButLogging debugEnvironment := by
    intro name unlike
    rw [debugEnvironment]
    · rfl
    · exact unlike
  have wellFormed : LogFilter.WellFormed bareEnvironment.logSetting :=
    LogFilter.warnings_eq_nil_iff.mp (by decide +kernel)
  have wellFormed' : LogFilter.WellFormed debugEnvironment.logSetting :=
    LogFilter.warnings_eq_nil_iff.mp (by decide +kernel)
  have read : interpret bareEnvironment.compiler ["ensure", "wget"] =
      .ok ⟨⟨0, none⟩, .ensure { formula := ⟨"wget", []⟩ }⟩ := by decide +kernel
  have read' : interpret debugEnvironment.compiler ["-vv", "ensure", "wget"] =
      .ok ⟨⟨2, none⟩, .ensure { formula := ⟨"wget", []⟩ }⟩ := by decide +kernel
  exact ⟨alike_paced 1 60, same, wellFormed, wellFormed', by decide +kernel, by decide +kernel,
    logging_observes (alike_paced 1 60) same wellFormed wellFormed' read read'⟩

end Program

end Cli

end HostProvision
