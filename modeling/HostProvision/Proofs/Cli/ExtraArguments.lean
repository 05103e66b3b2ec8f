import HostProvision.Proofs.Cli.Course
import HostProvision.Script

/-! # Flags for the formula

Everything behind `--` is meant for the formula manager. The command line hands it on as it is, and
so do the commands that install and upgrade the formula, which are the only ones that carry it.

* `Reading.behindDashes` is what has been read once `--` was; `Reading.readAll_behindDashes` says
  that nothing after it is read as anything else but a flag.
* **The arguments are handed on**, `interpret_ensureArgs`.
* **Flags reach the formula manager as they are**, `Program.extra_verbatim`: over every host, the
  commands that ensuring the formula can run are listed with all their arguments. -/

namespace HostProvision

variable {σ α : Type}

namespace Cli

/-- The arguments that ensure a formula with some flags. -/
def ensureArgs (dryRun : Bool) (name : String) (extra : List String) : List String :=
  "ensure" :: (if dryRun then ["--dry-run"] else []) ++ name :: "--" :: extra

/-! ## Reading the arguments -/

namespace Reading

variable {flags : List OptionName} {given : List Argument}

/-- What has been read of the command that ensures a formula, behind `--`. -/
def behindDashes (flags : List OptionName) (given : List Argument) (formula : Formula) :
    Reading where
  command := some .ensure
  flags := flags
  onlyPositional := true
  name := some formula.name
  extra := formula.extraArgs
  given := given

/-- Behind `--` every argument is one more flag for the formula, whatever it looks like. -/
theorem readAll_behindDashes (formula : Formula) (extra : List String) :
    ∃ later, (behindDashes flags given formula).readAll extra =
      .ok (behindDashes flags later ⟨formula.name, formula.extraArgs ++ extra⟩) := by
  induction extra generalizing given formula with
  | nil =>
    rw [List.append_nil]
    exact ⟨given, rfl⟩
  | cons text rest ih =>
    obtain ⟨later, all⟩ := @ih (given.erase .extra ++ [.extra])
      ⟨formula.name, formula.extraArgs ++ [text]⟩
    refine ⟨later, ?_⟩
    rw [List.append_assoc, List.singleton_append] at all
    exact all

/-- An argument that does not begin with a dash is the name of the formula. -/
theorem read_name {name : String} (plain : name.toList.head? ≠ some '-') (rest : List String) :
    ({ command := some .ensure, flags := flags, given := given } : Reading).read name rest =
      .ok { command := some .ensure, flags := flags, name := some name,
            given := given.erase .name ++ [.name] } := by
  rw [read]
  simp only [Bool.false_eq_true, if_false]
  cases chars : name.toList with
  | nil => rfl
  | cons first others =>
    rw [chars] at plain
    have undashed : first ≠ '-' := by simpa using plain
    split
    · next same => exact absurd (List.cons.inj same).1 undashed
    · next same => exact absurd (List.cons.inj same).1 undashed
    · next same => exact absurd (List.cons.inj same).1 undashed
    · rfl

/-- The option for a dry run is a flag. -/
theorem read_dryRun (rest : List String) :
    ({ command := some .ensure } : Reading).read "--dry-run" rest =
      .ok { command := some .ensure, flags := [.dryRun], given := [.option .dryRun] } :=
  rfl

/-- The arguments after the command give the name of the formula and its flags, and the option for a
dry run if that is among them. -/
theorem readAll_ensureArgs (dryRun : Bool) {name : String}
    (plain : name.toList.head? ≠ some '-') (extra : List String) :
    ∃ given, ({ command := some .ensure } : Reading).readAll
        ((if dryRun then ["--dry-run"] else []) ++ name :: "--" :: extra) =
      .ok (behindDashes (if dryRun then [.dryRun] else []) given ⟨name, extra⟩) := by
  -- The option may stand in front, and the rest is read in the same way with and without it.
  have rest : ∀ flags given, ∃ later,
      ({ command := some .ensure, flags := flags, given := given } : Reading).readAll
          (name :: "--" :: extra) = .ok (behindDashes flags later ⟨name, extra⟩) := by
    intro flags given
    obtain ⟨later, all⟩ :=
      @readAll_behindDashes flags (given.erase .name ++ [.name]) ⟨name, []⟩ extra
    refine ⟨later, ?_⟩
    rw [readAll, read_name plain]
    exact all
  cases dryRun with
  | false => exact rest [] []
  | true =>
    obtain ⟨later, all⟩ := rest [.dryRun] [.option .dryRun]
    refine ⟨later, ?_⟩
    change Reading.readAll _ ("--dry-run" :: _) = _
    rw [readAll, read_dryRun]
    exact all

end Reading

/-- **The arguments are handed on**: what stands behind `--` are the flags of the formula, and only
what stands before it matters for the program. -/
theorem interpret_ensureArgs (held : Option Bytes) (dryRun : Bool) {name : String}
    (plain : name.toList.head? ≠ some '-') (extra : List String) :
    interpret held (ensureArgs dryRun name extra) =
      .ok ⟨{}, .ensure { formula := ⟨name, extra⟩, dryRun }⟩ := by
  obtain ⟨given, all⟩ := Reading.readAll_ensureArgs dryRun plain extra
  have described : (Reading.behindDashes (if dryRun then [.dryRun] else []) given
      ⟨name, extra⟩).task held .ensure = .ok (.ensure { formula := ⟨name, extra⟩, dryRun }) := by
    cases dryRun <;> rfl
  have noHelp : ¬((!({} : Reading).onlyPositional && !({} : Reading).awaitsValue) = true ∧
      "ensure" = "help") := by decide
  have found : (if (!({} : Reading).onlyPositional && !({} : Reading).awaitsValue) = true then
      CommandName.ofSpelling? "ensure" else none) = some .ensure := by decide
  rw [interpret, ensureArgs, List.cons_append, interpretFrom, if_neg noHelp, found]
  simp only [all, described, bind, Except.bind]
  rfl

end Cli

/-! ## Running the commands -/

/-- A dry run runs no command. -/
theorem World.command_notMem_rehearse (world : World σ) (procedure : Procedure α) (state : σ)
    (mode : Mode) (line : CommandLine) (answer : Except IoError Reply) :
    .command mode line answer ∉ (world.run procedure.rehearse state).calls := by
  induction procedure generalizing state with
  | done value => exact List.not_mem_nil
  | notify notice next ih => exact ih state
  | ask request next ih =>
    cases request with
    | command asked shown => exact ih (.ok .success) state
    | clock | lookup _ | append _ _ | openLogs _ =>
      rw [Procedure.rehearse, calls_run_ask, List.mem_append]
      rintro (own | later)
      · simp [Entry.call?] at own
      · exact ih _ _ later

/-- Ensuring a formula as a measured step makes the calls of ensuring it. -/
theorem Tooling.exists_yields_of_ensure {tooling : Tooling} {formula : Formula}
    {calls : List Call} {result : Except Failure (EnsureOutcome × StepRecord)}
    (h : (tooling.ensure formula).Yields calls result) :
    ∃ kept, (tooling.brew.ensure formula).Yields calls kept ∧ failure? kept = failure? result := by
  rw [ensure, Step.yields_bind_quiet_iff fun _ _ _ => by
    rw [Step.yields_log_bind_iff, Step.yields_pure_iff]] at h
  obtain ⟨measured, hmeasured, rfl⟩ := h
  obtain ⟨kept, elapsed, yields, rfl⟩ := Step.yields_of_timed hmeasured
  exact ⟨kept, yields, by rw [failure?_map, failure?_map]⟩

/-- **The dry run of ensuring a formula** succeeds on every host, and shows the listing and the
installation. -/
theorem Tooling.rehearse_ensure {world : World σ} (discreet : world.IsDiscreet)
    (tooling : Tooling) (formula : Formula) (state : σ) :
    ∃ measured, (world.run (tooling.ensure formula).rehearse.run state).value = .ok measured ∧
      (world.run (tooling.ensure formula).rehearse.run state).diagnostics =
        [tooling.brew.listLine.rehearsed, (tooling.brew.installLine formula).rehearsed] := by
  obtain ⟨calls, yields, rehearsed⟩ : ∃ calls,
      (tooling.ensure formula).Yields calls
          (world.run (tooling.ensure formula).rehearse.run state).value ∧
        Rehearsed calls (world.run (tooling.ensure formula).rehearse.run state).calls
          (world.run (tooling.ensure formula).rehearse.run state).diagnostics :=
    World.exists_rehearsed discreet Tooling.onlyLogs_ensure state
  obtain ⟨kept, ensured, sameFailure⟩ := Tooling.exists_yields_of_ensure yields
  -- Every command succeeds in silence, so the formula is not listed and is installed.
  have fresh : Fresh tooling.brew [.ensure formula] calls :=
    ⟨rehearsed.succeeds, fun other listing _ mem => by
      cases rehearsed.eq_success mem
      exact Homebrew.not_lists_empty other.name⟩
  have makes : (Phase.ensure formula).Makes tooling calls (failure? kept) := ⟨kept, ensured, rfl⟩
  obtain ⟨succeeded, lines⟩ := Phase.lines_of_makes makes fresh
  obtain ⟨measured, value⟩ := exists_eq_ok_of_failure? (sameFailure.symm.trans succeeded)
  refine ⟨measured, value, ?_⟩
  rw [rehearsed.shown_eq, lines]
  rfl

namespace Homebrew

/-- The commands that ensuring a formula can run, with all their arguments. -/
def Carries (brew : Homebrew) (name : String) (extra : List String) (line : CommandLine) : Prop :=
  line.program = brew.executable ∧
    (line.args = ["list", "-1"] ∨ line.args = ["outdated", name] ∨
      line.args = "install" :: name :: extra ∨ line.args = "upgrade" :: name :: extra ∨
      line.args = ["link", "--overwrite", "gcc49"])

/-- **The commands of ensuring a formula**: only installing and upgrading it carry its flags. -/
theorem EnsureCourse.carries {brew : Homebrew} {name : String} {extra : List String}
    {calls : List Call} {result : Except Failure EnsureOutcome}
    (h : brew.EnsureCourse ⟨name, extra⟩ calls result) {mode : Mode} {line : CommandLine}
    {answer : Except IoError Reply} (mem : .command mode line answer ∈ calls) :
    brew.Carries name extra line := by
  have list : brew.Carries name extra brew.listLine := ⟨rfl, .inl rfl⟩
  have outdated : brew.Carries name extra (brew.outdatedLine name) := ⟨rfl, .inr (.inl rfl)⟩
  have install : brew.Carries name extra (brew.installLine ⟨name, extra⟩) :=
    ⟨rfl, .inr (.inr (.inl rfl))⟩
  have upgrade : brew.Carries name extra (brew.upgradeLine ⟨name, extra⟩) :=
    ⟨rfl, .inr (.inr (.inr (.inl rfl)))⟩
  have link : brew.Carries name extra (brew.linkLine conflictingFormula) :=
    ⟨rfl, .inr (.inr (.inr (.inr rfl)))⟩
  cases h with
  | listingRefused =>
    cases List.mem_singleton.mp mem
    exact list
  | checkBroken | upToDate =>
    rcases List.mem_pair.mp mem with same | same
    · cases same
      exact list
    · cases same
      exact outdated
  | upgraded | upgradeRefused =>
    rcases List.mem_cons.mp mem with same | mem
    · cases same
      exact list
    rcases List.mem_pair.mp mem with same | same
    · cases same
      exact outdated
    · cases same
      exact upgrade
  | installBroken | installed =>
    rcases List.mem_pair.mp mem with same | same
    · cases same
      exact list
    · cases same
      exact install
  | relinkBroken | relinked | exhausted =>
    rcases List.mem_cons.mp mem with same | mem
    · cases same
      exact list
    rcases List.mem_pair.mp mem with same | same
    · cases same
      exact install
    · cases same
      exact link

end Homebrew

namespace Cli

namespace EnsureOptions

variable {options : EnsureOptions} {environment : Environment}

/-- Ensures the formula, or shows how that would be done. -/
def provision (options : EnsureOptions) (settings : Settings) :
    Step (EnsureOutcome × StepRecord) :=
  let step := settings.tooling.ensure options.formula
  if options.dryRun then step.rehearse else step

/-- **The calls of the command** are those of ensuring the formula, and there are none if the
settings cannot be used. -/
theorem calls_perform (world : World σ) (state : σ) :
    (world.run (options.perform environment).run state).calls =
      match Settings.ofVariables environment.variables with
      | .ok settings => (world.run (options.provision settings).run state).calls
      | .error _ => [] := by
  rw [perform]
  refine (Settings.calls_run_load_bind world environment _ state).trans ?_
  cases Settings.ofVariables environment.variables with
  | error failure => rfl
  | ok settings =>
    dsimp only
    rw [provision]
    by_cases dry : options.dryRun
    · rw [if_pos dry, if_pos dry]
      refine world.calls_run_step_bind _ (fun measured => ?_) state
      exact ⟨trivial, trivial⟩
    · rw [if_neg dry, if_neg dry]
      refine world.calls_run_step_bind _ (fun measured => ?_) state
      exact ⟨trivial, trivial⟩

/-- The dry run of the command succeeds and shows the listing, the installation with the flags of
the formula, and how that ended. -/
theorem diagnostics_perform_of_dryRun {world : World σ} (discreet : world.IsDiscreet)
    (dry : options.dryRun = true) {settings : Settings}
    (loaded : Settings.ofVariables environment.variables = .ok settings) (state : σ) :
    ∃ last, (world.run (options.perform environment).run state).diagnostics =
        [settings.tooling.brew.listLine.rehearsed,
          (settings.tooling.brew.installLine options.formula).rehearsed, last] ∧
      (world.run (options.perform environment).run state).value = .ok () := by
  obtain ⟨measured, value, shown⟩ :=
    Tooling.rehearse_ensure discreet settings.tooling options.formula state
  have silent : (Settings.loadingNotices environment).filterMap Notice.diagnostics? = [] := by
    rw [Settings.loadingNotices, List.filterMap_cons, List.filterMap_map]
    exact List.filterMap_eq_nil_iff.mpr fun _ _ => rfl
  rw [perform, ExceptT.run_bind, Settings.run_load, loaded, Run.diagnostics,
    World.shown_run_bind, World.shown_run_telling, World.run_bind, World.run_telling, silent]
  dsimp only
  rw [if_pos dry, ExceptT.run_bind, World.shown_run_bind, World.run_bind]
  dsimp only
  rw [value]
  exact ⟨_, congrArg (· ++ _) shown, rfl⟩

end EnsureOptions

namespace Program

/-- **Flags reach the formula manager as they are.** Take a name that does not begin with a dash and
any flags behind `--`. They are read as just that, so no flag changes what the program does. Over
every host, the commands that are run are those of ensuring the formula: installing and upgrading it
have the name and then exactly the flags for arguments, and no other command carries any of them. A
dry run runs no command, and if the settings can be used it shows the listing and the installation
with the flags. -/
theorem extra_verbatim (world : World σ) (environment : Environment) (dryRun : Bool)
    (name : String) (extra : List String) (plain : name.toList.head? ≠ some '-') (state : σ) :
    let run := world.run (main environment (ensureArgs dryRun name extra)) state
    interpret environment.compiler (ensureArgs dryRun name extra) =
        .ok ⟨{}, .ensure { formula := ⟨name, extra⟩, dryRun }⟩ ∧
      (∀ mode line answer, .command mode line answer ∈ run.calls →
        dryRun = false ∧ ∃ settings, Settings.ofVariables environment.variables = .ok settings ∧
          settings.tooling.brew.Carries name extra line) ∧
      (dryRun = true → world.IsDiscreet →
        ∀ settings, Settings.ofVariables environment.variables = .ok settings →
          ∃ last, run.diagnostics =
            (warningNotices environment).filterMap Notice.diagnostics? ++
              [(⟨settings.brew, ["list", "-1"]⟩ : CommandLine).rehearsed,
                (⟨settings.brew, "install" :: name :: extra⟩ : CommandLine).rehearsed, last]) := by
  intro run
  let options : EnsureOptions := { formula := ⟨name, extra⟩, dryRun }
  have read := interpret_ensureArgs environment.compiler dryRun plain extra
  have started : main environment (ensureArgs dryRun name extra) =
      perform environment ⟨{}, .ensure options⟩ := by
    rw [main, read]
  refine ⟨read, fun mode line answer called => ?_, fun dry discreet settings loaded => ?_⟩
  · change _ ∈ (world.run (main environment _) state).calls at called
    rw [started, calls_run_perform_of_none] at called
    change _ ∈ (world.run (options.perform environment).run _).calls at called
    rw [EnsureOptions.calls_perform] at called
    cases loaded : Settings.ofVariables environment.variables with
    | error failure =>
      rw [loaded] at called
      cases called
    | ok settings =>
      rw [loaded] at called
      cases dryRun with
      | true => exact absurd called (world.command_notMem_rehearse _ _ mode line answer)
      | false =>
        obtain ⟨kept, yields, -⟩ := Tooling.exists_yields_of_ensure
          (world.run_yields (settings.tooling.ensure ⟨name, extra⟩).run _)
        have course := Homebrew.ensureCourse_of_yields yields
        exact ⟨rfl, settings, rfl, course.carries called⟩
  · have dryOptions : options.dryRun = true := dry
    obtain ⟨last, shown, value⟩ :=
      EnsureOptions.diagnostics_perform_of_dryRun discreet dryOptions loaded state
    refine ⟨last, ?_⟩
    change (world.run (main environment _) state).diagnostics = _
    rw [started, run_perform_of_none, run_carryOut, Run.diagnostics, Run.shown,
      List.filterMap_append, List.filterMap_append, List.filterMap_map, List.filterMap_map]
    -- The log message at the end of a success is no line.
    have nothing : (closing environment (.ok ())).filterMap Notice.diagnostics? = [] := rfl
    change _ ++ ((world.run (options.perform environment).run state).diagnostics ++
      (closing environment (world.run (options.perform environment).run state).value).filterMap
        Notice.diagnostics?) = _
    rw [shown, value, nothing, List.append_nil]
    rfl

/-- Flags that look like options of the program, or like the mark before them. -/
def lookalikes : List String :=
  ["--dry-run", "", "-v", "--log-dir", "--help", "--", "a b"]

/-- They reach the formula manager on a host on which nothing is installed, and are shown by a dry
run there. -/
theorem extra_verbatim_lookalikes :
    let environment : Environment := fun _ => none
    let run := Script.world.run (main environment (ensureArgs false "wget" lookalikes)) ⟨[], []⟩
    let rehearsal :=
      Script.world.run (main environment (ensureArgs true "wget" lookalikes)) ⟨[], []⟩
    "wget".toList.head? ≠ some '-' ∧
      interpret none (ensureArgs false "wget" lookalikes) =
        .ok ⟨{}, .ensure { formula := ⟨"wget", lookalikes⟩ }⟩ ∧
      run.calls.filterMap Call.line? =
        [⟨"brew", ["list", "-1"]⟩, ⟨"brew", "install" :: "wget" :: lookalikes⟩] ∧
      (∀ mode line answer, .command mode line answer ∈ run.calls →
        (⟨"brew"⟩ : Homebrew).Carries "wget" lookalikes line) ∧
      ∃ last, rehearsal.diagnostics =
        [(⟨"brew", ["list", "-1"]⟩ : CommandLine).rehearsed,
          (⟨"brew", "install" :: "wget" :: lookalikes⟩ : CommandLine).rehearsed, last] := by
  intro environment run rehearsal
  have plain : "wget".toList.head? ≠ some '-' := by decide
  have loaded : Settings.ofVariables environment.variables =
      .ok ⟨"/usr/local", "brew", "pip3"⟩ := by decide +kernel
  have discreet : Script.world.IsDiscreet := ⟨fun _ => rfl, fun _ _ => rfl⟩
  obtain ⟨read, carried, -⟩ :=
    extra_verbatim Script.world environment false "wget" lookalikes plain ⟨[], []⟩
  obtain ⟨-, -, shown⟩ :=
    extra_verbatim Script.world environment true "wget" lookalikes plain ⟨[], []⟩
  refine ⟨plain, read, by decide +kernel, fun mode line answer mem => ?_, ?_⟩
  · obtain ⟨-, settings, same, carries⟩ := carried mode line answer mem
    rw [loaded] at same
    cases same
    exact carries
  · have unwarned : LogFilter.warnings environment.logSetting = [] := by decide +kernel
    obtain ⟨last, lines⟩ := shown rfl discreet _ loaded
    rw [warningNotices, warningLines, unwarned] at lines
    exact ⟨last, lines⟩

end Program

end Cli

end HostProvision
