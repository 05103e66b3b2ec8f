import HostProvision.Proofs.Cli.Course
import HostProvision.Proofs.Lockstep

/-! # What commands ask of their host

A command asks for little: the time, commands and lookups, and to add to its path file. A host that
changes in other ways in the meantime is the same to it.

* `World.SameFor` says that requests of some kind cannot tell two states of a host apart, and
  `World.run_of_sameFor` that a procedure which makes only such requests has the same run in both.
* **What a command may ask**, `Cli.Task.Asks`, bounds each command, `Cli.Task.within_asks`. -/

namespace HostProvision

variable {σ α : Type}

namespace World

/-- Requests of some kind cannot tell two states of a host apart: whatever it was asked of this kind
before, it gives the same answers and tells the same in both. -/
def SameFor (world : World σ) (asks : Request → Prop) (state other : σ) : Prop :=
  ∀ (history : List Request) (request : Request), (∀ asked ∈ history, asks asked) → asks request →
    (world.handle request (world.after history state)).answer =
        (world.handle request (world.after history other)).answer ∧
      (world.handle request (world.after history state)).notices =
        (world.handle request (world.after history other)).notices

variable {world : World σ} {tells : Notice → Prop} {asks : Request → Prop} {state other : σ}

/-- States that cannot be told apart still cannot be after a request. -/
theorem SameFor.tail (h : world.SameFor asks state other) {request : Request}
    (asked : asks request) :
    world.SameFor asks (world.handle request state).state (world.handle request other).state :=
  fun history next before => h (request :: history) next (List.forall_mem_cons.mpr ⟨asked, before⟩)

/-- **States that cannot be told apart** have the same runs, and cannot be told apart after them
either. -/
theorem run_of_sameFor {procedure : Procedure α} (within : procedure.Within tells asks)
    (h : world.SameFor asks state other) :
    (world.run procedure state).value = (world.run procedure other).value ∧
      (world.run procedure state).entries = (world.run procedure other).entries ∧
      world.SameFor asks (world.run procedure state).state (world.run procedure other).state := by
  induction procedure generalizing state other with
  | done value => exact ⟨rfl, rfl, h⟩
  | notify notice next ih =>
    obtain ⟨value, entries, after⟩ := ih within.2 h
    exact ⟨value, congrArg (Entry.told notice :: ·) entries, after⟩
  | ask request next ih =>
    -- With nothing asked before, the answers agree, and so the procedure goes on in the same way.
    obtain ⟨answer, notices⟩ := h [] request (List.forall_mem_nil _) within.1
    change (world.handle request state).answer = (world.handle request other).answer at answer
    change (world.handle request state).notices = (world.handle request other).notices at notices
    obtain ⟨value, entries, after⟩ := ih _ (within.2 _) (h.tail within.1)
    rw [run, run, ← answer, ← notices]
    exact ⟨value, congrArg (_ ++ Entry.exchange request _ :: ·) entries, after⟩

end World

/-- A step keeps within bounds, whether or not only its dry run is carried out, if they allow all
that it asks, except for commands in a dry run. -/
theorem Step.Within.rehearse_if {tells : Notice → Prop} {asks asks' : Request → Prop}
    {step : Step α} (h : step.Within tells asks) (shows : ∀ octets, tells (.diagnostics octets))
    (dryRun : Bool) (allowed : ∀ request, asks request →
      (dryRun = true → ∀ mode line, request ≠ .command mode line) → asks' request) :
    Step.Within tells asks' (if dryRun then step.rehearse else step) := by
  cases dryRun with
  | true =>
    have bounded := Procedure.Within.rehearse_asks h shows
    refine bounded.mono (fun _ => id) fun request ⟨asked, other⟩ => ?_
    exact allowed request asked fun _ => other
  | false =>
    refine Procedure.Within.mono h (fun _ => id) fun request asked => ?_
    exact allowed request asked nofun

namespace Cli

/-- What a command may ask of its host. A dry run asks for no command, the only file that is added
to is the path file, and no command opens log files. -/
def Task.Asks : Task → Request → Prop
  | run _, .clock | run _, .lookup _ | ensure _, .clock => True
  | run options, .command .. => options.dryRun = false
  | ensure options, .command .. => options.dryRun = false
  | run options, .append file _ => options.pathFile.map Utf8.encode = some file
  | _, _ => False

namespace Task

/-- No command opens log files. -/
theorem Asks.ne_openLogs {task : Task} {request : Request} (h : task.Asks request)
    (directory : Bytes) : request ≠ .openLogs directory := by
  rintro rfl
  cases task <;> exact h

/-- Provisioning the host asks for what the command may ask for. -/
theorem within_asks_provision (options : RunOptions) (settings : Settings) (compiler : Compiler) :
    Step.Within (fun _ => True) (run options).Asks (options.provision settings compiler) := by
  have plan := Plan.onlyLogs_provision (Plan.standard compiler settings) settings.tooling
  refine Step.Within.rehearse_if (plan.mono (fun _ _ => trivial) fun _ => id) (fun _ => trivial)
    options.dryRun fun request call uncommanded => ?_
  cases request with
  | clock | lookup _ => trivial
  | command mode line => exact Bool.eq_false_iff.mpr fun dry => uncommanded dry mode line rfl
  | append file content => exact call.elim
  | openLogs directory => exact call.elim

/-- Ensuring a formula asks for what the command may ask for. -/
theorem within_asks_ensure (options : EnsureOptions) (tooling : Tooling) :
    let step := tooling.ensure options.formula
    Step.Within (fun _ => True) (ensure options).Asks
      (if options.dryRun then step.rehearse else step) := by
  intro step
  have within : step.Within (fun _ => True)
      fun request => request = .clock ∨ ∃ mode line, request = .command mode line :=
    Tooling.within_ensure (fun _ => trivial) (fun mode line => .inr ⟨mode, line, rfl⟩) (.inl rfl)
  refine within.rehearse_if (fun _ => trivial) options.dryRun fun request asked uncommanded => ?_
  rcases asked with rfl | ⟨mode, line, rfl⟩
  · trivial
  · exact Bool.eq_false_iff.mpr fun dry => uncommanded dry mode line rfl

/-- **What a command asks** is what it may ask. -/
theorem within_asks (environment : Environment) (task : Task) :
    Step.Within (fun _ => True) task.Asks (task.perform environment) := by
  cases task with
  | compilers => exact Step.within_lift (Procedure.within_forM fun _ _ => ⟨trivial, trivial⟩)
  | ensure options =>
    refine (Settings.within_load (fun _ => trivial) environment).bind fun settings => ?_
    have asked := within_asks_ensure options settings.tooling
    dsimp only at asked ⊢
    by_cases dry : options.dryRun
    · rw [if_pos dry] at asked ⊢
      exact asked.bind fun _ => ⟨trivial, trivial⟩
    · rw [if_neg dry] at asked ⊢
      exact asked.bind fun _ => ⟨trivial, trivial⟩
  | run options =>
    refine Step.Within.bind (Step.within_ofExcept _) fun compiler => ?_
    refine (Settings.within_load (fun _ => trivial) environment).bind fun settings => ?_
    refine ((within_asks_provision options settings compiler).bind fun report => ?_).inSpan trivial
      trivial
    -- What follows provisioning adds to the path file at most.
    refine (options.within_announce environment report).mono (fun _ _ => trivial) ?_
    rintro request ⟨file, content, given, rfl⟩
    exact congrArg (Option.map Utf8.encode) given

end Task

end Cli

end HostProvision
