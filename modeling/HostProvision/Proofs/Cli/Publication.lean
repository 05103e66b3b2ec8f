import HostProvision.Proofs.Cli.Invocation
import HostProvision.Proofs.Provision.Rehearsal
import HostProvision.Proofs.SearchPath.Export
import Mathlib.Logic.Function.Basic

/-! # Publishing the search path

What the command that provisions the host leaves behind for others: a line on the output stream, an
entry in the path file, and the exit code.

* A `Runner` is any host that leaves the output stream to the program, and `Runner.withFiles` is
  that host with path files, of which each is missing, a file, or closed.
* **What publishes nothing is not seen**, `Runner.see_bind_of_confined`: whatever a confined
  procedure does, only its result counts.
* **All or nothing**, `Cli.Program.perform_run_publication`: the command either exits with zero,
  prints the line and adds the entry, or exits with another code and leaves no trace. -/

namespace HostProvision

variable {σ α β : Type}

/-! ## Path files -/

/-- What a path leads to when octets are to be added there. -/
inductive Target where
  /-- There is nothing. -/
  | missing
  /-- There is a file with some content. -/
  | file (content : Bytes)
  /-- There is something that cannot be opened. -/
  | closed (cause : IoError)

namespace Target

/-- Adds octets at the end. -/
def append (content : Bytes) : Target → Except IoError Unit × Target
  | missing => (.ok (), file content)
  | file old => (.ok (), file (old ++ content))
  | closed cause => (.error cause, closed cause)

/-- The octets that are there. -/
def content : Target → Bytes
  | file old => old
  | missing | closed _ => []

/-- Octets can be added. -/
def IsOpen : Target → Prop
  | missing | file _ => True
  | closed _ => False

/-- What can be opened is a file afterwards, with the octets at its end. -/
theorem append_of_isOpen {target : Target} (h : target.IsOpen) (added : Bytes) :
    target.append added = (.ok (), .file (target.content ++ added)) := by
  cases target with
  | missing => rfl
  | file old => rfl
  | closed cause => exact h.elim

end Target

/-- A host that leaves the output stream to the program. -/
structure Runner (σ : Type) extends World σ where
  /-- Nothing is told for the output stream while requests are answered. -/
  reserved : ∀ request state, (∀ file content, request ≠ .append file content) →
    (handle request state).notices.filterMap Notice.output? = []

/-- Machines run their commands beside the output stream. -/
def Host.Machine.runner : Runner Machine where
  toWorld := Machine.world
  reserved request machine named := by
    cases request with
    | clock => rfl
    | lookup program => rfl
    | append file content => exact absurd rfl (named file content)
    | command mode line =>
      cases mode with
      | capture =>
        simp only [Machine.world, Machine.capture]
        split
        · rfl
        · split <;> [skip; split] <;> rfl
      | stream =>
        simp only [Machine.world, Machine.stream]
        split
        · rfl
        · split <;> rfl
    | openLogs directory =>
      simp only [Machine.world, Machine.openLogs]
      split
      · rfl
      · split <;> rfl

namespace Runner

/-- The host with path files, which nobody else touches. -/
def withFiles (runner : Runner σ) : World (σ × (Bytes → Target)) where
  handle
    | .append file content, (state, files) =>
      let (answer, target) := (files file).append content
      ⟨answer, [], (state, Function.update files file target)⟩
    | request, (state, files) =>
      let answered := runner.handle request state
      ⟨answered.answer, answered.notices, (answered.state, files)⟩

end Runner

/-- What is seen of a run from outside. -/
structure Seen (α : Type) where
  /-- The result. -/
  value : α
  /-- What was printed. -/
  outputs : List String
  /-- The path files afterwards. -/
  files : Bytes → Target

/-- What is seen when only the result changes. -/
def Seen.map (change : α → β) (seen : Seen α) : Seen β :=
  { seen with value := change seen.value }

/-- A procedure that publishes nothing, whatever it is answered. -/
abbrev Procedure.Confined (procedure : Procedure α) : Prop :=
  procedure.Within (fun notice => notice.output? = none)
    fun request => ∀ file content, request ≠ .append file content

/-- A step that publishes nothing, whatever it is answered. -/
abbrev Step.Confined (step : Step α) : Prop :=
  step.run.Confined

namespace Runner

variable (runner : Runner σ) {state : σ} {files : Bytes → Target}

/-- What is seen of a procedure that is carried out with path files. -/
def see (procedure : Procedure α) (state : σ) (files : Bytes → Target) : Seen α :=
  let run := runner.withFiles.run procedure (state, files)
  ⟨run.value, run.outputs, run.state.2⟩

/-- Other requests than those for path files are answered by the host. -/
theorem handle_withFiles {request : Request}
    (other : ∀ file content, request ≠ .append file content) :
    runner.withFiles.handle request (state, files) =
      ⟨(runner.handle request state).answer, (runner.handle request state).notices,
        ((runner.handle request state).state, files)⟩ := by
  cases request with
  | append file content => exact absurd rfl (other file content)
  | _ => rfl

/-- What is not told for the output stream is not seen. -/
theorem see_notify {notice : Notice} (h : notice.output? = none) (next : Procedure α) :
    runner.see (.notify notice next) state files = runner.see next state files := by
  rw [see, Run.outputs, World.shown_run_notify, h]
  rfl

/-- A request for a path file is answered by what the path leads to, and changes it. -/
theorem see_append (file content : Bytes) (next : Except IoError Unit → Procedure α) :
    runner.see (.ask (.append file content) next) state files =
      runner.see (next ((files file).append content).1) state
        (Function.update files file ((files file).append content).2) :=
  rfl

/-- **What publishes nothing is not seen**: only its result counts for what follows. -/
theorem see_bind_of_confined {first : Procedure α} (h : first.Confined)
    (second : α → Procedure β) :
    runner.see (first >>= second) state files =
      runner.see (second (runner.run first state).value) (runner.run first state).state files := by
  -- The host answers each request as it does without path files, so both runs keep in step.
  induction first generalizing state with
  | done value => rfl
  | notify notice next ih =>
    refine Eq.trans ?_ (ih h.2)
    rw [see, see, Procedure.notify_bind, Run.outputs, World.shown_run_notify, h.1]
    rfl
  | ask request next ih =>
    refine Eq.trans ?_ (ih _ (h.2 _))
    rw [see, see, Procedure.ask_bind, Run.outputs, World.shown_run_ask, World.run,
      runner.handle_withFiles h.1, runner.reserved request state h.1]
    rfl

/-- What publishes nothing leaves no trace. -/
theorem see_of_confined {procedure : Procedure α} (h : procedure.Confined) :
    runner.see procedure state files = ⟨(runner.run procedure state).value, [], files⟩ := by
  rw [← bind_pure procedure, runner.see_bind_of_confined h, bind_pure]
  rfl

/-- What publishes nothing at the end only settles the result. -/
theorem see_bind_of_ending (first : Procedure α) {second : α → Procedure β} (change : α → β)
    (h : ∀ value, (second value).Confined)
    (ends : ∀ value state, (runner.run (second value) state).value = change value) :
    runner.see (first >>= second) state files = (runner.see first state files).map change := by
  rw [see, see, Run.outputs, World.shown_run_bind, World.run_bind]
  obtain ⟨value, entries, state, files⟩ := runner.withFiles.run first (state, files)
  have later : runner.see (second value) state files = ⟨change value, [], files⟩ :=
    (runner.see_of_confined (h value)).trans (by rw [ends])
  obtain ⟨hvalue, houtputs, hfiles⟩ := Seen.mk.inj later
  simp only [Seen.map, hvalue, houtputs, hfiles, List.append_nil]

/-- After a step that publishes nothing, a sequence goes on with its value or ends with its
failure. -/
theorem see_step_bind_of_confined {first : Step α} (h : first.Confined) (second : α → Step β) :
    runner.see (first >>= second).run state files =
      match (runner.run first.run state).value with
      | .ok value => runner.see (second value).run (runner.run first.run state).state files
      | .error failure => ⟨.error failure, [], files⟩ := by
  rw [ExceptT.run_bind, runner.see_bind_of_confined h]
  cases (runner.run first.run state).value <;> rfl

/-- A span is not seen. -/
theorem see_inSpan (span : Span) (body : Step α) :
    runner.see (Step.inSpan span body).run state files = runner.see body.run state files := by
  have leaves (value : Except Failure α) :
      (Procedure.notify .leave (.done value)).Confined := ⟨rfl, trivial⟩
  exact runner.see_bind_of_ending body.run id leaves fun _ _ => rfl

/-- Telling one thing after another is not seen if none of them is for the output stream. -/
theorem see_forM_tell_bind {notice : β → Notice} (h : ∀ item, (notice item).output? = none)
    (items : List β) (next : Step α) :
    runner.see ((items.forM fun item => (ExceptT.lift (Procedure.tell (notice item)) : Step Unit))
      >>= fun _ => next).run state files = runner.see next.run state files := by
  induction items with
  | nil => rfl
  | cons item items ih => exact (runner.see_notify (h item) _).trans ih

end Runner

/-- A step that only logs and calls publishes nothing. -/
theorem Step.Within.confined {step : Step α} (h : step.OnlyLogs) : step.Confined := by
  refine Procedure.Within.mono h (fun notice log => ?_) fun request call file content same => ?_
  · cases notice with
    | output text => exact log.elim
    | _ => rfl
  · rw [same] at call
    exact call

namespace Cli

/-- The variables of an environment, as far as their values are texts. -/
abbrev Environment.variables (environment : Environment) : Variables :=
  fun name => (environment name).bind Utf8.decode?

/-- Reading the settings is not seen: they are what the variables give. -/
theorem see_load_bind (runner : Runner σ) (environment : Environment) (next : Settings → Step α)
    (state : σ) (files : Bytes → Target) :
    runner.see (Settings.load environment >>= next).run state files =
      match Settings.ofVariables environment.variables with
      | .ok settings => runner.see (next settings).run state files
      | .error failure => ⟨.error failure, [], files⟩ := by
  rw [Settings.load, Settings.read, bind_assoc, bind_assoc]
  refine (runner.see_notify rfl _).trans ?_
  refine (runner.see_forM_tell_bind (fun event => (rfl : (Notice.event event).output? = none))
    _ _).trans ?_
  cases Settings.ofVariables environment.variables <;> rfl

namespace RunOptions

variable (options : RunOptions) (environment : Environment)

/-- The update that a run comes to, or why there is none. -/
def outcome (runner : Runner σ) (state : σ) : Except Failure PathUpdate :=
  match Compiler.select options.compiler, Settings.ofVariables environment.variables with
  | .error failure, _ | .ok _, .error failure => .error failure
  | .ok compiler, .ok settings =>
    (runner.run (options.provision settings compiler).run state).value.map Report.pathUpdate

/-- What is published for an update of the search path. -/
def published (update : PathUpdate) (files : Bytes → Target) : Seen (Except Failure Unit) :=
  match update.apply environment.searchPath with
  | .error failure => ⟨.error failure, [], files⟩
  | .ok _ =>
    match options.pathFile with
    | none => ⟨.ok (), [update.exportLine ++ "\n"], files⟩
    | some file =>
      match (files (Utf8.encode file)).append (pathFileContent update) with
      | (.error cause, _) => ⟨.error (.pathFile file cause.message), [], files⟩
      | (.ok (), target) =>
        ⟨.ok (), [update.exportLine ++ "\n"], Function.update files (Utf8.encode file) target⟩

/-- What publishing an update shows, on any host. -/
theorem see_publish (runner : Runner σ) (update : PathUpdate) (state : σ)
    (files : Bytes → Target) :
    runner.see (options.publish environment update).run state files =
      options.published environment update files := by
  rw [publish, published]
  cases update.apply environment.searchPath with
  | error failure => rfl
  | ok path =>
    cases options.pathFile with
    | none => rfl
    | some file =>
      change runner.see (.notify (.event (.updatedPath path))
        (.ask (.append (Utf8.encode file) (pathFileContent update)) _)) state files = _
      rw [Runner.see_notify _ rfl, Runner.see_append]
      dsimp only
      cases target : files (Utf8.encode file) with
      | missing => rfl
      | file content => rfl
      | closed cause =>
        -- What cannot be opened is put back as it was.
        have unchanged : Function.update files (Utf8.encode file) (.closed cause) = files := by
          rw [← target, Function.update_eq_self]
        exact congrArg (Seen.mk (Except.error (Failure.pathFile file cause.message)) []) unchanged

/-- Provisioning publishes nothing, whether or not it is a dry run. -/
theorem confined_provision (settings : Settings) (compiler : Compiler) :
    (options.provision settings compiler).Confined := by
  have confined := (Plan.onlyLogs_provision (Plan.standard compiler settings)
    settings.tooling).confined
  rw [provision]
  by_cases dry : options.dryRun
  · rw [if_pos dry]
    exact Procedure.Within.rehearse confined fun _ => rfl
  · rw [if_neg dry]
    exact confined

/-- **What the command shows** is settled by the update that it comes to. -/
theorem see_perform (runner : Runner σ) (state : σ) (files : Bytes → Target) :
    runner.see (options.perform environment).run state files =
      match options.outcome environment runner state with
      | .error failure => ⟨.error failure, [], files⟩
      | .ok update => options.published environment update files := by
  rw [perform, outcome]
  cases Compiler.select options.compiler with
  | error failure => rfl
  | ok compiler =>
    refine (see_load_bind runner environment _ state files).trans ?_
    cases Settings.ofVariables environment.variables with
    | error failure => rfl
    | ok settings =>
      refine (runner.see_inSpan _ _).trans ?_
      refine (runner.see_step_bind_of_confined
        (options.confined_provision settings compiler) _).trans ?_
      cases provisioned : (runner.run (options.provision settings compiler).run state).value with
      | error failure =>
        dsimp only
        rw [provisioned]
        rfl
      | ok report =>
        refine (runner.see_forM_tell_bind (fun _ => rfl) _ _).trans ?_
        refine (options.see_publish environment runner report.pathUpdate _ files).trans ?_
        dsimp only
        rw [provisioned]
        rfl

/-- Provisioning ends as the plan does for some answers, whether or not it is a dry run. -/
theorem exists_yields_of_provision (world : World σ) (state : σ) (settings : Settings)
    (compiler : Compiler) :
    ∃ calls, ((Plan.standard compiler settings).provision settings.tooling).Yields calls
      (world.run (options.provision settings compiler).run state).value := by
  have yields := world.run_yields (options.provision settings compiler).run state
  by_cases dry : options.dryRun
  · simp only [provision, dry, if_true] at yields ⊢
    exact Procedure.exists_yields_of_rehearse yields
  · simp only [provision, dry] at yields ⊢
    exact ⟨_, yields⟩

/-- The update that provisioning comes to is that of the directory of the installed programs. -/
theorem pathUpdate_of_provision {world : World σ} {state : σ} {settings : Settings}
    {compiler : Compiler} {report : Report}
    (h : (world.run (options.provision settings compiler).run state).value = .ok report) :
    report.pathUpdate = ⟨settings.binDirectory⟩ := by
  obtain ⟨calls, yields⟩ := options.exists_yields_of_provision world state settings compiler
  rw [h] at yields
  obtain ⟨found, -, reports⟩ := Plan.carriedOut_of_provision yields
  exact (reports report rfl).2

/-- The path files after an update was published. -/
def filesAfter (update : PathUpdate) (files : Bytes → Target) : Bytes → Target :=
  match options.pathFile with
  | none => files
  | some file => Function.update files (Utf8.encode file)
    (.file ((files (Utf8.encode file)).content ++ pathFileContent update))

/-- What is added to the path file is the directory of the installed programs and a line feed. -/
theorem pathFileContent_binDirectory (settings : Settings) :
    pathFileContent ⟨settings.binDirectory⟩ = settings.binDirectory ++ [0x0A] := by
  rw [pathFileContent, Utf8.encode_append, settings.encode_shown_binDirectory]
  rfl

/-- An update is published if its directory has no colon and the path file, if there is one, can be
opened. -/
theorem published_of_accepted {update : PathUpdate} {files : Bytes → Target}
    (free : SearchPath.colon ∉ update.directory)
    (opens : ∀ file, options.pathFile = some file → (files (Utf8.encode file)).IsOpen) :
    options.published environment update files =
      ⟨.ok (), [update.exportLine ++ "\n"], options.filesAfter update files⟩ := by
  rw [published, filesAfter]
  cases applied : update.apply environment.searchPath with
  | error failure => exact absurd (SearchPath.apply_eq_error_iff.mp applied).1 free
  | ok path =>
    cases given : options.pathFile with
    | none => rfl
    | some file =>
      dsimp only
      rw [Target.append_of_isOpen (opens file given)]

/-- Nothing is published of any other update. -/
theorem published_of_refused {update : PathUpdate} {files : Bytes → Target}
    (refused : ¬(SearchPath.colon ∉ update.directory ∧
      ∀ file, options.pathFile = some file → (files (Utf8.encode file)).IsOpen)) :
    ∃ failure, options.published environment update files = ⟨.error failure, [], files⟩ := by
  rw [published]
  cases applied : update.apply environment.searchPath with
  | error failure => exact ⟨failure, rfl⟩
  | ok path =>
    have free := (SearchPath.apply_eq_ok_iff.mp applied).1
    cases given : options.pathFile with
    | none => exact absurd ⟨free, fun file same => by rw [given] at same; cases same⟩ refused
    | some file =>
      cases target : files (Utf8.encode file) with
      | closed cause =>
        refine ⟨.pathFile file cause.message, ?_⟩
        simp only [target, Target.append]
      | missing | file _ =>
        refine absurd ⟨free, fun other same => ?_⟩ refused
        obtain rfl := Option.some.inj (given.symm.trans same)
        rw [target]
        trivial

/-- Everything is there that a run needs: a compiler, settings, a host on which provisioning
succeeds, a directory that a search path can hold, and a path file, if one is asked for, that can be
opened. -/
structure Ready (runner : Runner σ) (state : σ) (files : Bytes → Target) (settings : Settings) :
    Prop where
  /-- The compiler is supported, and provisioning succeeds. -/
  provisioned : ∃ compiler report, Compiler.select options.compiler = .ok compiler ∧
    (runner.run (options.provision settings compiler).run state).value = .ok report
  /-- The settings are those of the environment. -/
  settings_eq : Settings.ofVariables environment.variables = .ok settings
  /-- The directory of the installed programs has no colon. -/
  free : SearchPath.colon ∉ settings.binDirectory
  /-- The path file can be opened. -/
  opens : ∀ file, options.pathFile = some file → (files (Utf8.encode file)).IsOpen

variable {options environment} {runner : Runner σ} {state : σ} {files : Bytes → Target}

/-- A run comes to an update if everything is there that provisioning needs. -/
theorem outcome_eq_ok_iff {update : PathUpdate} :
    options.outcome environment runner state = .ok update ↔
      ∃ settings compiler report, Settings.ofVariables environment.variables = .ok settings ∧
        Compiler.select options.compiler = .ok compiler ∧
        (runner.run (options.provision settings compiler).run state).value = .ok report ∧
        update = ⟨settings.binDirectory⟩ := by
  rw [outcome]
  constructor
  · intro h
    cases selected : Compiler.select options.compiler with
    | error failure =>
      rw [selected] at h
      cases h
    | ok compiler =>
      cases loaded : Settings.ofVariables environment.variables with
      | error failure =>
        rw [selected, loaded] at h
        cases h
      | ok settings =>
        rw [selected, loaded] at h
        dsimp only at h
        cases provisioned : (runner.run (options.provision settings compiler).run state).value with
        | error failure =>
          rw [provisioned] at h
          cases h
        | ok report =>
          rw [provisioned] at h
          cases h
          exact ⟨settings, compiler, report, rfl, rfl, provisioned,
            options.pathUpdate_of_provision provisioned⟩
  · rintro ⟨settings, compiler, report, loaded, selected, provisioned, rfl⟩
    rw [selected, loaded]
    dsimp only
    rw [provisioned, ← options.pathUpdate_of_provision provisioned]
    rfl

/-- A run that has everything is seen to publish the update. -/
theorem Ready.see_eq {settings : Settings}
    (ready : options.Ready environment runner state files settings) :
    runner.see (options.perform environment).run state files =
      ⟨.ok (), [(⟨settings.binDirectory⟩ : PathUpdate).exportLine ++ "\n"],
        options.filesAfter ⟨settings.binDirectory⟩ files⟩ := by
  obtain ⟨compiler, report, selected, provisioned⟩ := ready.provisioned
  rw [see_perform, outcome_eq_ok_iff.mpr
    ⟨settings, compiler, report, ready.settings_eq, selected, provisioned, rfl⟩]
  exact options.published_of_accepted environment ready.free ready.opens

/-- A run that lacks something is seen to fail and to publish nothing. -/
theorem see_eq_error_of_not_ready
    (lacking : ¬∃ settings, options.Ready environment runner state files settings) :
    ∃ failure, runner.see (options.perform environment).run state files =
      ⟨.error failure, [], files⟩ := by
  rw [see_perform]
  cases outcome : options.outcome environment runner state with
  | error failure => exact ⟨failure, rfl⟩
  | ok update =>
    obtain ⟨settings, compiler, report, loaded, selected, provisioned, rfl⟩ :=
      outcome_eq_ok_iff.mp outcome
    refine options.published_of_refused environment fun ⟨free, opens⟩ => lacking ⟨settings, ?_⟩
    exact ⟨⟨compiler, report, selected, provisioned⟩, loaded, free, opens⟩

end RunOptions

namespace Program

/-- Making everything ready for log messages publishes nothing. -/
theorem confined_prepareLogs (environment : Environment) (globals : GlobalOptions) :
    (prepareLogs environment globals).Confined :=
  within_prepareLogs environment (fun _ => rfl) (fun _ => rfl) (fun _ _ _ => nofun) globals

/-- Path files do not matter for whether a program goes on to its command. -/
theorem value_prepareLogs_withFiles_iff {runner : Runner σ} {environment : Environment}
    {globals : GlobalOptions} {state : σ} {files : Bytes → Target} :
    (runner.withFiles.run (prepareLogs environment globals) (state, files)).value = true ↔
      ¬RefusesLogFile runner.toWorld globals state :=
  value_prepareLogs_iff

/-- What is seen of carrying a command out is what is seen of the command, with an exit code for the
result. -/
theorem see_carryOut (runner : Runner σ) (environment : Environment) (task : Task) (state : σ)
    (files : Bytes → Target) :
    runner.see (carryOut environment task) state files =
      (runner.see (task.perform environment).run state files).map exitCode := by
  rw [carryOut_eq]
  refine runner.see_bind_of_ending _ exitCode (fun result => ?_) fun result state => ?_
  · cases result with
    | ok done => exact ⟨rfl, trivial⟩
    | error failure => exact ⟨rfl, rfl, trivial⟩
  · rw [World.run_telling]

/-- **What the program shows** is what the command shows, with an exit code for the result, and
nothing if the program breaks off. -/
theorem see_perform (runner : Runner σ) (environment : Environment) (invocation : Invocation)
    (state : σ) (files : Bytes → Target) :
    runner.see (perform environment invocation) state files =
      let ready := runner.run (prepareLogs environment invocation.globals) state
      if ready.value then
        (runner.see (invocation.task.perform environment).run ready.state files).map exitCode
      else ⟨brokenOffExitCode, [], files⟩ := by
  refine (runner.see_bind_of_confined
    (confined_prepareLogs environment invocation.globals) _).trans ?_
  dsimp only
  cases (runner.run (prepareLogs environment invocation.globals) state).value with
  | true => exact see_carryOut runner environment invocation.task _ files
  | false => rfl

/-- **All or nothing.** On every host, with any path file, under every environment and with any
options, the command that provisions the host exits with zero exactly if everything is there that it
needs, and no log file is refused that was asked for. Then it prints the one line that puts the
directory of the installed programs in front of the search path, whatever log messages are shown,
and the path file, if one is asked for, has the directory and a line feed behind what it had before.
If it exits with another code, it has printed nothing, and every path file is as it was. This is so
as well if the program breaks off at a log file, and then nothing is called. -/
theorem perform_run_publication (runner : Runner σ) (environment : Environment)
    (globals : GlobalOptions) (options : RunOptions) (state : σ) (files : Bytes → Target) :
    let run := runner.withFiles.run (perform environment ⟨globals, .run options⟩) (state, files)
    let ready := (runner.run (prepareLogs environment globals) state).state
    let goesOn := ¬RefusesLogFile runner.toWorld globals state
    (run.value = 0 ↔
      goesOn ∧ ∃ settings, options.Ready environment runner ready files settings) ∧
    (∀ settings, goesOn → options.Ready environment runner ready files settings →
      (∀ filter detail, (Display.render filter detail run.entries).outputText =
        (⟨settings.binDirectory⟩ : PathUpdate).exportLine ++ "\n") ∧
      run.state.2 = match options.pathFile with
        | none => files
        | some file => Function.update files (Utf8.encode file)
          (.file ((files (Utf8.encode file)).content ++ settings.binDirectory ++ [0x0A]))) ∧
    (run.value ≠ 0 →
      (∀ filter detail, (Display.render filter detail run.entries).outputText = "") ∧
      run.state.2 = files) ∧
    (¬goesOn → run.value = brokenOffExitCode ∧ run.calls = []) := by
  intro run ready goesOn
  have seen := see_perform runner environment ⟨globals, .run options⟩ state files
  change Seen.mk run.value run.outputs run.state.2 = _ at seen
  have shown (filter : LogFilter) (detail : Nat) :
      (Display.render filter detail run.entries).outputText = String.join run.outputs :=
    Display.outputText_render filter detail run
  have seenOn (h : goesOn) : Seen.mk run.value run.outputs run.state.2 =
      (runner.see (options.perform environment).run ready files).map exitCode :=
    seen.trans (if_pos (value_prepareLogs_iff.mpr h))
  have published (settings : Settings) (h : goesOn)
      (has : options.Ready environment runner ready files settings) : run.value = 0 ∧
        run.outputs = [(⟨settings.binDirectory⟩ : PathUpdate).exportLine ++ "\n"] ∧
        run.state.2 = options.filesAfter ⟨settings.binDirectory⟩ files := by
    have seen := seenOn h
    rw [has.see_eq] at seen
    exact Seen.mk.inj seen
  have brokenOff (h : ¬goesOn) : run.value = brokenOffExitCode ∧ run.outputs = [] ∧
      run.state.2 = files :=
    Seen.mk.inj (seen.trans (if_neg (value_prepareLogs_iff.not.mpr h)))
  have refused (lacking : ¬(goesOn ∧
        ∃ settings, options.Ready environment runner ready files settings)) :
      run.value ≠ 0 ∧ run.outputs = [] ∧ run.state.2 = files := by
    -- Either the command itself fails, or it is not reached.
    by_cases h : goesOn
    · have seen := seenOn h
      obtain ⟨failure, failed⟩ := RunOptions.see_eq_error_of_not_ready fun has => lacking ⟨h, has⟩
      rw [failed] at seen
      obtain ⟨value, rest⟩ := Seen.mk.inj seen
      exact ⟨fun zero => failure.exitCode_ne_zero (value.symm.trans zero), rest⟩
    · obtain ⟨value, rest⟩ := brokenOff h
      exact ⟨by rw [value]; decide, rest⟩
  have zero_iff : run.value = 0 ↔
      goesOn ∧ ∃ settings, options.Ready environment runner ready files settings :=
    ⟨fun zero => by_contra fun lacking => (refused lacking).1 zero,
      fun ⟨h, settings, has⟩ => (published settings h has).1⟩
  refine ⟨zero_iff, fun settings h has => ?_, fun nonzero => ?_, fun h => ⟨(brokenOff h).1, ?_⟩⟩
  · obtain ⟨-, outputs, after⟩ := published settings h has
    refine ⟨fun filter detail => ?_, after.trans ?_⟩
    · rw [shown, outputs]
      exact String.empty_append
    · rw [RunOptions.filesAfter]
      cases options.pathFile with
      | none => rfl
      | some file =>
        dsimp only
        rw [RunOptions.pathFileContent_binDirectory, List.append_assoc]
  · obtain ⟨-, outputs, after⟩ := refused fun has => nonzero (zero_iff.mpr has)
    refine ⟨fun filter detail => ?_, after⟩
    rw [shown, outputs]
    rfl
  · exact (calls_run_perform runner.withFiles environment ⟨globals, .run options⟩ _).trans
      (if_neg (value_prepareLogs_withFiles_iff.not.mpr h))

end Program

end Cli

end HostProvision
