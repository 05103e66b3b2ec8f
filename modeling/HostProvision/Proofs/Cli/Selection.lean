import HostProvision.Proofs.Cli.Course

/-! # Choosing the compiler

The compiler comes from an option of the command line or, if that is not given, from a variable of
the environment. Whether it is supported is settled before anything is done.

* `Obtained` says which choice is obtained from the option and the variable, and
  `interpret_of_obtained` that this is the choice that the command is given.
* **A supported compiler is never refused**, `RunOptions.value_perform_ne`, and nothing is called
  but what provisioning with that compiler calls, `RunOptions.calls_perform`.
* **Problems with the choice come first**, `Program.selection_first`: if no compiler was chosen
  that is supported, then that is what is reported, whatever else is wrong, and nothing is done. -/

namespace HostProvision

variable {σ : Type}

/-- Scripted hosts tell nothing. -/
def Script.runner : Runner Script where
  toWorld := Script.world
  reserved request script _ := by cases request <;> rfl

/-- Provisioning fails for no want of a supported compiler. -/
theorem Plan.ne_unsupportedCompiler_of_yields {plan : Plan} {tooling : Tooling}
    {calls : List Call} {failure : Failure}
    (h : (plan.provision tooling).Yields calls (.error failure)) (value : String) :
    failure ≠ .unsupportedCompiler value := by
  rintro rfl
  obtain ⟨found, carriedOut, -⟩ := carriedOut_of_provision h
  rw [failure?_error] at carriedOut
  obtain ⟨done, last, skipped, phases, -, occurs, failed, -⟩ :=
    carriedOut.exists_legs_of_stopped
  have mem : last.phase ∈ plan.phases found := by simp [phases]
  -- A run fails by a command, and no command has this failure.
  obtain ⟨first, call, -, causes⟩ := causesAtEnd_of_occurs mem occurs failed
  cases causes []

/-- Settings are refused for no want of a supported compiler. -/
theorem Settings.ofVariables_ne (known : Variables) (value : String) :
    ofVariables known ≠ .error (.unsupportedCompiler value) := by
  rw [ofVariables]
  by_cases usable : (asked known).isUsable
  · simp [usable]
  · simp [usable, relativeRoot]

/-- A choice that is no spelling of a compiler is refused by what it is. -/
theorem Compiler.select_eq_error {choice : Option String}
    (unsupported : ∀ compiler : Compiler, choice ≠ some compiler.spelling) :
    select choice = .error (.unsupportedCompiler (choice.getD unset)) := by
  cases choice with
  | none => rfl
  | some text =>
    cases found : ofSpelling? text with
    | none => simp only [select, found, Option.getD_some]
    | some compiler =>
      have spelled := ofSpelling?_eq_some_iff.mp found
      exact absurd (congrArg some spelled) (unsupported compiler)

namespace Cli

/-- A sequence that comes to a value gets through its first part. -/
theorem exists_of_bind_eq_ok {ε α β : Type} {first : Except ε α} {second : α → Except ε β}
    {value : β} (h : first >>= second = .ok value) :
    ∃ middle, first = .ok middle ∧ second middle = .ok value := by
  cases first with
  | error cause => cases h
  | ok middle => exact ⟨middle, rfl, h⟩

/-- The choice of a compiler that is obtained from an option and a variable, both of which may be
missing: the option counts more, and a variable has to be text. -/
inductive Obtained : Option String → Option Bytes → Option String → Prop where
  /-- The option is given. -/
  | option (value : String) (held : Option Bytes) :
      Obtained (some value) held (some value)
  /-- The option is not given, and the variable is text. -/
  | fromVariable {octets : Bytes} {value : String} (text : Utf8.decode? octets = some value) :
      Obtained none (some octets) (some value)
  /-- Neither is given. -/
  | absent : Obtained none none none

/-- The arguments of the command that provisions the host are read in the same way with the variable
as without it, except for the compiler. -/
theorem Reading.task_of_obtained {reading : Reading} {command : CommandName}
    {flagged : RunOptions} {held : Option Bytes} {choice : Option String}
    (read : reading.task none command = .ok (.run flagged))
    (obtained : Obtained flagged.compiler held choice) :
    reading.task held command = .ok (.run { flagged with compiler := choice }) := by
  cases command with
  | ensure =>
    -- This command would give another task.
    rw [task] at read
    cases name : reading.name with
    | none =>
      rw [name] at read
      cases read
    | some given =>
      rw [name] at read
      cases read
  | compilers => cases read
  | run =>
    cases given : reading.values.lookup .compiler with
    | some value =>
      simp only [task, given] at read ⊢
      cases read
      cases obtained
      rfl
    | none =>
      simp only [task, given] at read ⊢
      cases read
      cases obtained with
      | fromVariable text =>
        simp only [text]
        rfl
      | absent => rfl

/-- From any point before the command, the arguments of the command that provisions the host are
read in the same way with the variable as without it, except for the compiler. -/
theorem interpretFrom_of_obtained {args : List String} {reading : Reading}
    {globals : GlobalOptions} {flagged : RunOptions} {held : Option Bytes}
    {choice : Option String}
    (read : interpretFrom none reading args = .ok ⟨globals, .run flagged⟩)
    (obtained : Obtained flagged.compiler held choice) :
    interpretFrom held reading args =
      .ok ⟨globals, .run { flagged with compiler := choice }⟩ := by
  induction args generalizing reading with
  | nil =>
    rw [interpretFrom] at read
    obtain ⟨settled, -, read⟩ := exists_of_bind_eq_ok read
    cases read
  | cons text rest ih =>
    rw [interpretFrom] at read ⊢
    by_cases help : (!reading.onlyPositional && !reading.awaitsValue) = true ∧ text = "help"
    · rw [if_pos help] at read
      cases read
    · rw [if_neg help] at read ⊢
      generalize (if (!reading.onlyPositional && !reading.awaitsValue) = true then
        CommandName.ofSpelling? text else none) = found at read ⊢
      cases found with
      | none =>
        obtain ⟨next, hnext, read⟩ := exists_of_bind_eq_ok read
        simp only [hnext]
        exact ih read
      | some command =>
        -- The variable only matters for the task that the arguments after the command describe.
        obtain ⟨after, hafter, read⟩ := exists_of_bind_eq_ok read
        obtain ⟨task, htask, read⟩ := exists_of_bind_eq_ok read
        obtain ⟨before, hbefore, read⟩ := exists_of_bind_eq_ok read
        cases read
        have described := Reading.task_of_obtained htask obtained
        simp only [hafter, hbefore, described, bind, Except.bind]
        rfl

namespace RunOptions

variable {options : RunOptions} {environment : Environment} {compiler : Compiler}

/-- Publishing an update fails for no want of a supported compiler. -/
theorem value_published_ne (options : RunOptions) (environment : Environment)
    (update : PathUpdate) (files : Bytes → Target) (value : String) :
    (options.published environment update files).value ≠ .error (.unsupportedCompiler value) := by
  rw [published]
  cases applied : update.apply environment.searchPath with
  | error failure =>
    obtain ⟨-, rfl⟩ := SearchPath.apply_eq_error_iff.mp applied
    simp
  | ok path =>
    cases options.pathFile with
    | none => simp
    | some file =>
      dsimp only
      rcases (files (Utf8.encode file)).append (pathFileContent update) with ⟨answer, target⟩
      cases answer with
      | ok done => simp
      | error cause => simp

/-- **A supported compiler is never refused**, whatever else goes wrong. -/
theorem value_perform_ne (runner : Runner σ) (start : σ × (Bytes → Target))
    (selected : Compiler.select options.compiler = .ok compiler) (value : String) :
    (runner.withFiles.run (options.perform environment).run start).value ≠
      .error (.unsupportedCompiler value) := by
  obtain ⟨state, files⟩ := start
  change (runner.see _ state files).value ≠ _
  rw [see_perform]
  cases outcome : options.outcome environment runner state with
  | ok update => exact options.value_published_ne environment update files value
  | error failure =>
    intro same
    cases same
    rw [RunOptions.outcome, selected] at outcome
    cases loaded : Settings.ofVariables environment.variables with
    | error failure =>
      rw [loaded] at outcome
      cases outcome
      exact Settings.ofVariables_ne environment.variables value loaded
    | ok settings =>
      rw [loaded] at outcome
      dsimp only at outcome
      obtain ⟨calls, yields⟩ :=
        options.exists_yields_of_provision runner.toWorld state settings compiler
      cases provisioned : (runner.run (options.provision settings compiler).run state).value with
      | ok report =>
        rw [provisioned] at outcome
        cases outcome
      | error failure =>
        rw [provisioned] at outcome yields
        cases outcome
        exact Plan.ne_unsupportedCompiler_of_yields yields value rfl

/-- **The calls of the command** are those of provisioning with the compiler that was chosen, and
there are none if the settings cannot be used. -/
theorem calls_perform (world : World σ) (state : σ)
    (selected : Compiler.select options.compiler = .ok compiler) :
    (world.run (options.perform environment).run state).calls =
      match Settings.ofVariables environment.variables with
      | .ok settings => (world.run (options.provision settings compiler).run state).calls
      | .error _ => [] := by
  rw [perform, selected]
  refine (Settings.calls_run_load_bind world environment _ state).trans ?_
  cases Settings.ofVariables environment.variables with
  | error failure => rfl
  | ok settings =>
    dsimp only
    rw [World.calls_run_inSpan]
    refine world.calls_run_step_bind _ (fun report => ?_) state
    refine (options.within_announce environment report).mono (fun _ _ => trivial) ?_
    rintro request ⟨file, content, -, rfl⟩ answer
    rfl

/-- An unsupported compiler ends the command at once. -/
theorem run_perform_of_refused {failure : Failure}
    (refused : Compiler.select options.compiler = .error failure) :
    (options.perform environment).run = .done (.error failure) := by
  rw [perform, refused]
  rfl

end RunOptions

namespace Program

/-- **Problems with the choice come first.** Take any arguments of the command that provisions the
host, and the choice that is obtained from them and from the environment. If it is the spelling of a
compiler, then the command does not report that the compiler is not supported, and nothing is called
but what provisioning with exactly that compiler calls. Any other choice, or none at all, ends the
command with the exit code 1: nothing is called or printed, no path file changes, and the failure
that is reported is that this very choice is not supported, whatever the settings are. Only a log
file that was asked for and is refused comes before that: then nothing is called or printed, no path
file changes, and no failure is reported at all. -/
theorem selection_first (runner : Runner σ) (environment : Environment) (args : List String)
    {globals : GlobalOptions} {flagged : RunOptions} {choice : Option String} (state : σ)
    (files : Bytes → Target) (read : interpret none args = .ok ⟨globals, .run flagged⟩)
    (obtained : Obtained flagged.compiler environment.compiler choice) :
    let run := runner.withFiles.run (main environment args) (state, files)
    let ready := (runner.withFiles.run (prepareLogs environment globals) (state, files)).state
    let goesOn := ¬RefusesLogFile runner.toWorld globals state
    (goesOn → ∀ compiler : Compiler, choice = some compiler.spelling →
      (∀ value, ¬Reports environment (.unsupportedCompiler value) run) ∧
      (∀ failure, Settings.ofVariables environment.variables = .error failure → run.calls = []) ∧
      ∀ settings, Settings.ofVariables environment.variables = .ok settings →
        let plan := Plan.standard compiler settings
        let step := plan.provision settings.tooling
        plan.compiler = compiler ∧
          run.calls = (runner.withFiles.run
            (if flagged.dryRun then step.rehearse else step).run ready).calls) ∧
    (goesOn → (∀ compiler : Compiler, choice ≠ some compiler.spelling) →
      run.value = 1 ∧ run.calls = [] ∧ run.state.2 = files ∧
      (∀ filter detail, (Display.render filter detail run.entries).outputText = "") ∧
      ∀ failure, Reports environment failure run ↔
        failure = .unsupportedCompiler (choice.getD Compiler.unset)) ∧
    (¬goesOn →
      run.value = brokenOffExitCode ∧ run.calls = [] ∧ run.state.2 = files ∧
      (∀ filter detail, (Display.render filter detail run.entries).outputText = "") ∧
      ∀ failure, ¬Reports environment failure run) := by
  intro run ready goesOn
  let options : RunOptions := { flagged with compiler := choice }
  have started : main environment args = perform environment ⟨globals, .run options⟩ := by
    rw [main, interpret, interpretFrom_of_obtained read obtained]
  have seen := see_perform runner environment ⟨globals, .run options⟩ state files
  rw [← started] at seen
  -- What is reported and what is called is that of the command, once it is reached.
  have reports (failure : Failure) : Reports environment failure run ↔ goesOn ∧
      (runner.withFiles.run (options.perform environment).run ready).value = .error failure := by
    change Reports environment failure (runner.withFiles.run (main environment args) _) ↔ _
    rw [started]
    exact reports_iff.trans (and_congr_left fun _ => value_prepareLogs_withFiles_iff)
  have called :=
    calls_run_perform runner.withFiles environment ⟨globals, .run options⟩ (state, files)
  rw [← started] at called
  have calls (h : goesOn) : run.calls =
      (runner.withFiles.run (options.perform environment).run ready).calls :=
    called.trans (if_pos (value_prepareLogs_withFiles_iff.mpr h))
  refine ⟨fun h compiler chosen => ?_, fun h unsupported => ?_, fun h => ?_⟩
  · have selected : Compiler.select options.compiler = .ok compiler :=
      Compiler.select_eq_ok_iff.mpr chosen
    have called := (calls h).trans (RunOptions.calls_perform runner.withFiles ready selected)
    refine ⟨fun value reported => ?_, fun failure refused => ?_, fun settings loaded => ?_⟩
    · exact RunOptions.value_perform_ne runner ready selected value ((reports _).mp reported).2
    · rw [called, refused]
    · intro plan step
      rw [called, loaded]
      exact ⟨rfl, rfl⟩
  · have refused : Compiler.select options.compiler =
        .error (.unsupportedCompiler (choice.getD Compiler.unset)) :=
      Compiler.select_eq_error unsupported
    have ended : (options.perform environment).run = .done (.error _) :=
      RunOptions.run_perform_of_refused refused
    have shown : runner.see (main environment args) state files = ⟨1, [], files⟩ := by
      rw [seen]
      dsimp only
      rw [if_pos (value_prepareLogs_iff.mpr h)]
      change (runner.see (options.perform environment).run _ files).map exitCode = _
      rw [ended]
      rfl
    obtain ⟨value, outputs, after⟩ := Seen.mk.inj shown
    refine ⟨value, ?_, after, fun filter detail => ?_, fun failure => ?_⟩
    · rw [calls h, ended]
      rfl
    · rw [Display.outputText_render, outputs]
      rfl
    · rw [reports, ended]
      constructor
      · rintro ⟨-, same⟩
        exact (Except.error.inj same).symm
      · rintro rfl
        exact ⟨h, rfl⟩
  · obtain ⟨value, outputs, after⟩ :=
      Seen.mk.inj (seen.trans (if_neg (value_prepareLogs_iff.not.mpr h)))
    refine ⟨value, ?_, after, fun filter detail => ?_, fun failure reported => ?_⟩
    · exact called.trans (if_neg (value_prepareLogs_withFiles_iff.not.mpr h))
    · rw [Display.outputText_render, outputs]
      rfl
    · exact h ((reports failure).mp reported).1

/-- An environment that names a compiler, and an installation root that is no absolute path. -/
def relativeRootEnvironment : Environment
  | "COMPILER" => some (Utf8.encode "gcc-5")
  | "HOMEBREW_PREFIX" => some (Utf8.encode "homebrew")
  | _ => none

/-- In that environment a misspelled option is what is reported, and without the option it is the
root; nothing is called in either case. -/
theorem selection_first_relativeRootEnvironment :
    let misspelled := Script.runner.withFiles.run
      (main relativeRootEnvironment ["run", "--compiler", "GCC-5"]) (⟨[], []⟩, fun _ => .missing)
    let fromVariable := Script.runner.withFiles.run
      (main relativeRootEnvironment ["run"]) (⟨[], []⟩, fun _ => .missing)
    interpret none ["run", "--compiler", "GCC-5"] =
        .ok ⟨{}, .run { compiler := some "GCC-5" }⟩ ∧
      Obtained (some "GCC-5") relativeRootEnvironment.compiler (some "GCC-5") ∧
      interpret none ["run"] = .ok ⟨{}, .run {}⟩ ∧
      Obtained none relativeRootEnvironment.compiler (some "gcc-5") ∧
      misspelled.value = 1 ∧ misspelled.calls = [] ∧
      Reports relativeRootEnvironment (.unsupportedCompiler "GCC-5") misspelled ∧
      ¬Reports relativeRootEnvironment (Settings.relativeRoot "homebrew") misspelled ∧
      (∀ value, ¬Reports relativeRootEnvironment (.unsupportedCompiler value) fromVariable) ∧
      fromVariable.calls = [] := by
  intro misspelled fromVariable
  have read : interpret none ["run", "--compiler", "GCC-5"] =
      .ok ⟨{}, .run { compiler := some "GCC-5" }⟩ := by decide +kernel
  have readPlain : interpret none ["run"] = .ok ⟨{}, .run {}⟩ := by decide +kernel
  have obtained : Obtained (some "GCC-5") relativeRootEnvironment.compiler (some "GCC-5") :=
    .option _ _
  have obtainedPlain : Obtained none relativeRootEnvironment.compiler (some "gcc-5") :=
    .fromVariable (Utf8.decode?_encode "gcc-5")
  have refused : Settings.ofVariables relativeRootEnvironment.variables =
      .error (Settings.relativeRoot "homebrew") := by decide +kernel
  have unsupported : ∀ compiler : Compiler, some "GCC-5" ≠ some compiler.spelling := by
    intro compiler
    cases compiler <;> decide
  obtain ⟨-, nothing, -⟩ := selection_first Script.runner relativeRootEnvironment
    ["run", "--compiler", "GCC-5"] ⟨[], []⟩ (fun _ => .missing) read obtained
  obtain ⟨value, calls, -, -, reports⟩ := nothing not_refusesLogFile_of_none unsupported
  obtain ⟨supported, -⟩ := selection_first Script.runner relativeRootEnvironment
    ["run"] ⟨[], []⟩ (fun _ => .missing) readPlain obtainedPlain
  obtain ⟨accepted, uncalled, -⟩ := supported not_refusesLogFile_of_none .gcc5 rfl
  have other : Settings.relativeRoot "homebrew" ≠ .unsupportedCompiler "GCC-5" := by
    simp [Settings.relativeRoot]
  exact ⟨read, obtained, readPlain, obtainedPlain, value, calls, (reports _).mpr rfl,
    fun reported => other ((reports _).mp reported), accepted, uncalled _ refused⟩

end Program

end Cli

end HostProvision
