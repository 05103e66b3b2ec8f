import HostProvision.Proofs.Parallel
import HostProvision.Proofs.Provision.Steering

/-! # Measured times steer nothing

Provisioning reads the clock before and after every measured step. Whatever the clock shows goes
into records and into nothing else.

* **Ensuring a formula**, `Tooling.parallel_ensure`, and **provisioning by a plan**,
  `Plan.parallel_provision`, are parallel to themselves: two runs that differ in measured times only
  come to the same outcome, or report the same steps. -/

namespace HostProvision

/-- **Ensuring a formula goes by no measured time.** -/
theorem Tooling.parallel_ensure (tooling : Tooling) (formula : Formula) :
    Step.Parallel (Step.SameMeasured Eq) (tooling.ensure formula) (tooling.ensure formula) := by
  have timeless : (tooling.brew.ensure formula).Timeless :=
    Homebrew.within_ensure (fun _ => trivial) fun _ _ => nofun
  refine ((Step.parallel_refl timeless).timed _).bind fun measured other related => ?_
  obtain ⟨outcome, record⟩ := measured
  obtain ⟨another, recorded⟩ := other
  obtain ⟨same, named⟩ : outcome = another ∧ record.name = recorded.name := related
  subst same
  exact Step.Parallel.log_bind (.same _) (Step.parallel_pure ⟨rfl, named⟩)

namespace Stage

variable {tooling : Tooling}

/-- Measured steps that are parallel are recorded by the same name. -/
theorem parallel_recorded {α : Type} {same : α → α → Prop} {step : Step (α × StepRecord)}
    (h : Step.Parallel (Step.SameMeasured same) step step) :
    Step.Parallel SameSteps (step >>= fun measured => pure [measured.2])
      (step >>= fun measured => pure [measured.2]) :=
  h.bind fun _ _ related => Step.parallel_pure (congrArg (fun name => [name]) related.2)

/-- A measured command that has to succeed is recorded by its name. -/
theorem parallel_required (name : String) (line : CommandLine) :
    Step.Parallel SameSteps
      (Step.timed name (discard (Step.commandChecked .stream line)) >>=
        fun measured => pure [measured.2])
      (Step.timed name (discard (Step.commandChecked .stream line)) >>=
        fun measured => pure [measured.2]) := by
  have timeless : (discard (Step.commandChecked .stream line)).Timeless :=
    (Step.within_commandChecked nofun).map _
  exact parallel_recorded ((Step.parallel_refl timeless).timed name)

/-- A stage goes by no measured time. -/
theorem parallel_run (stage : Stage) :
    Step.Parallel SameSteps (stage.run tooling) (stage.run tooling) := by
  cases stage with
  | update => exact parallel_required "brew update" tooling.brew.updateLine
  | ensure formula => exact parallel_recorded (tooling.parallel_ensure formula)
  | ensureUnlessFound formula =>
    refine (Step.parallel_refl (Step.within_lookup nofun)).bind fun found other same => ?_
    rw [← same]
    cases found with
    | true => exact Step.Parallel.log_bind (.same _) (Step.parallel_pure rfl)
    | false => exact parallel_recorded (tooling.parallel_ensure formula)
  | keepCompiler compiler => exact Step.Parallel.log_bind (.same _) (Step.parallel_pure rfl)
  | install formula =>
    exact parallel_required ("install " ++ formula.name) (tooling.brew.installLine formula)
  | pipInstall package =>
    exact parallel_required ("pip install " ++ package) (tooling.pip.installLine package)

/-- Stages one after another go by no measured time. -/
theorem parallel_runAll (stages : List Stage) :
    Step.Parallel SameSteps (runAll tooling stages) (runAll tooling stages) := by
  induction stages with
  | nil => exact Step.parallel_pure rfl
  | cons stage rest ih =>
    refine (parallel_run stage).bind fun records others same => ih.bind fun later later' more =>
      Step.parallel_pure ?_
    rw [SameSteps, List.map_append, List.map_append, same, more]

end Stage

/-- **Provisioning goes by no measured time.** -/
theorem Plan.parallel_provision (plan : Plan) (tooling : Tooling) :
    Step.Parallel SameReport (plan.provision tooling) (plan.provision tooling) := by
  rw [provision]
  refine Step.Parallel.inSpan ((Stage.parallel_runAll plan.stages).bind fun records others same =>
    ?_) _
  exact Step.Parallel.log_bind (.same _) (Step.parallel_pure ⟨same, rfl⟩)

end HostProvision
