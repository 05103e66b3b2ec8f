import HostProvision.Plan
import HostProvision.Proofs.Ensure.Course
import Mathlib.Data.List.Basic

/-! # The phases of a provisioning run

A plan unfolds into phases, of which each makes its own calls: `Plan.phases` lists them for either
answer to the lookup of the build system, and `Phase.Makes` says what one of them calls and how it
then ends. Times and log messages play no part.

* `Phase.CarriedOut` is the rule of a run: one phase after another, and nothing after a failure.
* **What a stage calls and records**, `Stage.accomplishes_of_run`, is settled by its phases, and
  that of a list of stages, `Stage.accomplishes_of_runAll`, by the phases of each.
* **What a plan calls and reports**, `Plan.carriedOut_of_provision`, is settled by the phases of the
  plan. -/

namespace HostProvision

variable {σ α β : Type}

/-- The failure that a result reports, if any. -/
def failure? : Except Failure α → Option Failure
  | .ok _ => none
  | .error failure => some failure

@[simp] theorem failure?_ok (value : α) : failure? (.ok value) = none := rfl

@[simp] theorem failure?_error (failure : Failure) :
    failure? (.error failure : Except Failure α) = some failure := rfl

/-- What is done with a value changes no failure. -/
@[simp] theorem failure?_map (result : Except Failure α) (change : α → β) :
    failure? (result.map change) = failure? result := by
  cases result <;> rfl

/-- A result that reports no failure is a value. -/
theorem exists_eq_ok_of_failure? {result : Except Failure α} (h : failure? result = none) :
    ∃ value, result = .ok value := by
  cases result with
  | ok value => exact ⟨value, rfl⟩
  | error failure => cases h

/-- A part of a provisioning run, by what it does to the host. -/
inductive Phase where
  /-- The package index is updated. -/
  | update
  /-- A formula is ensured. -/
  | ensure (formula : Formula)
  /-- A program is looked up, with this answer. -/
  | lookup (program : String) (found : Bool)
  /-- A formula is installed, whether or not it is there. -/
  | install (formula : Formula)
  /-- A Python package is installed. -/
  | pipInstall (package : String)
  deriving DecidableEq, Repr

/-- The phases of a plan, in order, if the lookup of the build system has this answer. -/
def Plan.phases (plan : Plan) (found : Bool) : List Phase :=
  [.update] ++ plan.basePackages.map .ensure ++
    [.lookup plan.buildSystem.name found] ++
    (if found then [] else [.ensure plan.buildSystem]) ++
    plan.compiler.formula?.toList.map .ensure ++
    [.install plan.pythonFormula] ++ plan.pythonPackages.map .pipInstall

namespace Plan

/-- The one formula that is installed, whether or not it is there, is Python. -/
theorem install_mem_phases_iff {plan : Plan} {found : Bool} {formula : Formula} :
    .install formula ∈ plan.phases found ↔ formula = plan.pythonFormula := by
  cases found <;> simp [phases]

/-- The Python packages that are installed are those of the plan. -/
theorem pipInstall_mem_phases_iff {plan : Plan} {found : Bool} {package : String} :
    .pipInstall package ∈ plan.phases found ↔ package ∈ plan.pythonPackages := by
  cases found <;> simp [phases]

end Plan

namespace Phase

/-- The name of the record that a phase leaves, if it leaves one. -/
def recordName? : Phase → Option String
  | update => some "brew update"
  | ensure formula => some ("ensure " ++ formula.name)
  | lookup .. => none
  | install formula => some ("install " ++ formula.name)
  | pipInstall package => some ("pip install " ++ package)

/-- One streamed command and nothing else: what is called, and the failure if it does not
succeed. -/
def Requires (line : CommandLine) (calls : List Call) (failure : Option Failure) : Prop :=
  ∃ answer, calls = [.command .stream line answer] ∧ failure = failure? (Step.checked line answer)

/-- What a phase calls, with the answers, and the failure that it ends in, if any. -/
def Makes (tooling : Tooling) : Phase → List Call → Option Failure → Prop
  | update, calls, failure => Requires tooling.brew.updateLine calls failure
  | ensure formula, calls, failure =>
    ∃ result, (tooling.brew.ensure formula).Yields calls result ∧ failure = failure? result
  | lookup program found, calls, failure => calls = [.lookup program found] ∧ failure = none
  | install formula, calls, failure => Requires (tooling.brew.installLine formula) calls failure
  | pipInstall package, calls, failure => Requires (tooling.pip.installLine package) calls failure

/-- Phases carried out in order until one fails: what is called, and the failure, if any. -/
inductive CarriedOut (tooling : Tooling) : List Phase → List Call → Option Failure → Prop where
  /-- There are no more phases. -/
  | finished : CarriedOut tooling [] [] none
  /-- A phase succeeds, and the others follow. -/
  | continued {phase : Phase} {phases : List Phase} {first rest : List Call}
      {ending : Option Failure} (done : phase.Makes tooling first none)
      (others : CarriedOut tooling phases rest ending) :
      CarriedOut tooling (phase :: phases) (first ++ rest) ending
  /-- A phase fails, and nothing follows. -/
  | stopped {phase : Phase} {phases : List Phase} {calls : List Call} {failure : Failure}
      (failed : phase.Makes tooling calls (some failure)) :
      CarriedOut tooling (phase :: phases) calls (some failure)

namespace CarriedOut

variable {tooling : Tooling} {phases others : List Phase} {calls rest : List Call}
  {ending : Option Failure} {failure : Failure}

/-- One phase by itself ends as it ends. -/
theorem singleton {phase : Phase} (h : phase.Makes tooling calls ending) :
    CarriedOut tooling [phase] calls ending := by
  cases ending with
  | none =>
    rw [← List.append_nil calls]
    exact .continued h .finished
  | some failure => exact .stopped h

/-- Phases that succeed are followed by others. -/
theorem append (done : CarriedOut tooling phases calls none)
    (more : CarriedOut tooling others rest ending) :
    CarriedOut tooling (phases ++ others) (calls ++ rest) ending := by
  -- The ending is made a variable for the induction, and rules out the case of a failure.
  generalize succeeded : (none : Option Failure) = before at done
  induction done with
  | finished => exact more
  | continued done _ ih =>
    rw [List.append_assoc]
    exact .continued done (ih succeeded)
  | stopped failed => cases succeeded

/-- Phases of which one fails are followed by nothing. -/
theorem append_of_failure (stopped : CarriedOut tooling phases calls (some failure))
    (others : List Phase) : CarriedOut tooling (phases ++ others) calls (some failure) := by
  generalize failed : some failure = before at stopped
  induction stopped with
  | finished => cases failed
  | continued done _ ih => exact .continued done (ih failed)
  | stopped h => exact .stopped h

/-- Of phases in two parts the first part fails and nothing follows, or the second part is carried
out after it. -/
theorem of_append (h : CarriedOut tooling (phases ++ others) calls ending) :
    (∃ failure, ending = some failure ∧ CarriedOut tooling phases calls (some failure)) ∨
      ∃ before after, calls = before ++ after ∧ CarriedOut tooling phases before none ∧
        CarriedOut tooling others after ending := by
  induction phases generalizing calls with
  | nil => exact .inr ⟨[], calls, rfl, .finished, h⟩
  | cons phase phases ih =>
    cases h with
    | continued done rest =>
      rcases ih rest with ⟨failure, failed, hphases⟩ | ⟨before, after, rfl, hphases, hothers⟩
      · exact .inl ⟨failure, failed, .continued done hphases⟩
      · exact .inr ⟨_, after, (List.append_assoc ..).symm, .continued done hphases, hothers⟩
    | @stopped _ _ _ failure failed => exact .inl ⟨failure, rfl, .stopped failed⟩

end CarriedOut

end Phase

/-! ## Steps that carry out phases -/

/-- A measured step calls what it calls unmeasured, and its record bears its name. -/
theorem Step.yields_of_timed {name : String} {body : Step α} {calls : List Call}
    {result : Except Failure (α × StepRecord)} (h : (Step.timed name body).Yields calls result) :
    ∃ (kept : Except Failure α) (elapsed : Elapsed), body.Yields calls kept ∧
      result = kept.map fun value => (value, ⟨name, elapsed⟩) := by
  rw [timed, yields_log_bind_iff, yields_clock_bind_iff] at h
  obtain ⟨start, h⟩ := h
  -- A failure of the body is kept while the clock is read, and raised again after that.
  obtain ⟨kept, before, after, rfl, hbody, h⟩ := yields_attempt_bind_iff.mp h
  obtain ⟨stop, h⟩ := yields_clock_bind_iff.mp h
  refine ⟨kept, stop.since start, ?_⟩
  cases kept with
  | ok value =>
    rw [yields_log_bind_iff, yields_pure_iff] at h
    obtain ⟨rfl, rfl⟩ := h
    rw [List.append_nil]
    exact ⟨hbody, rfl⟩
  | error failure =>
    rw [yields_log_bind_iff, yields_throw_iff] at h
    obtain ⟨rfl, rfl⟩ := h
    rw [List.append_nil]
    exact ⟨hbody, rfl⟩

namespace Step

/-- Whatever a host answers, a step carries out the given phases, and a value that it ends with is
as said. -/
def CarriesOut (tooling : Tooling) (step : Step α) (phases : List Phase) (gives : α → Prop) :
    Prop :=
  ∀ ⦃calls : List Call⦄ ⦃result : Except Failure α⦄, step.Yields calls result →
    Phase.CarriedOut tooling phases calls (failure? result) ∧
      ∀ value, result = .ok value → gives value

variable {tooling : Tooling} {phases others : List Phase} {gives : α → Prop} {yields : β → Prop}

/-- A value is had without any phase. -/
theorem carriesOut_pure (value : α) (h : gives value) :
    CarriesOut tooling (pure value : Step α) [] gives := by
  intro calls result yielded
  obtain ⟨rfl, rfl⟩ := yields_pure_iff.mp yielded
  refine ⟨.finished, fun other same => ?_⟩
  cases same
  exact h

/-- A log message is no phase. -/
theorem CarriesOut.log_bind {next : Unit → Step α}
    (h : CarriesOut tooling (next ()) phases gives) (event : Event) :
    CarriesOut tooling (log event >>= next) phases gives :=
  fun _ _ hnext => h (yields_log_bind_iff.mp hnext)

/-- A sequence carries out the phases of its first part and then those of its second part. -/
theorem CarriesOut.bind {first : Step α} {second : α → Step β}
    (hfirst : CarriesOut tooling first phases gives)
    (hsecond : ∀ value, gives value → CarriesOut tooling (second value) others yields) :
    CarriesOut tooling (first >>= second) (phases ++ others) yields := by
  intro calls result h
  rcases yields_bind_iff.mp h with ⟨failure, rfl, failed⟩ | ⟨value, before, after, rfl, done, more⟩
  · exact ⟨(hfirst failed).1.append_of_failure others, fun _ same => by cases same⟩
  · obtain ⟨hphases, hvalue⟩ := hfirst done
    obtain ⟨hothers, hgiven⟩ := hsecond value (hvalue value rfl) more
    exact ⟨hphases.append hothers, hgiven⟩

/-- A second part that is no phase adds none. -/
theorem CarriesOut.bind_silent {first : Step α} {second : α → Step β}
    (hfirst : CarriesOut tooling first phases gives)
    (hsecond : ∀ value, gives value → CarriesOut tooling (second value) [] yields) :
    CarriesOut tooling (first >>= second) phases yields := by
  rw [← List.append_nil phases]
  exact hfirst.bind hsecond

/-- A step that makes the calls of a phase carries it out. -/
theorem carriesOut_singleton {step : Step α} {phase : Phase}
    (makes : ∀ calls result, step.Yields calls result →
      phase.Makes tooling calls (failure? result)) :
    CarriesOut tooling step [phase] fun _ => True :=
  fun calls result h => ⟨.singleton (makes calls result h), fun _ _ => trivial⟩

/-- Measuring a step is no phase, and the record bears its name. -/
theorem CarriesOut.timed {body : Step α} (hbody : CarriesOut tooling body phases gives)
    (name : String) :
    CarriesOut tooling (timed name body) phases fun measured => measured.2.name = name := by
  intro calls result h
  obtain ⟨kept, elapsed, hkept, rfl⟩ := yields_of_timed h
  rw [failure?_map]
  refine ⟨(hbody hkept).1, fun measured same => ?_⟩
  cases kept with
  | error failure => cases same
  | ok value =>
    cases same
    rfl

end Step

/-! ## The phases of a stage -/

namespace Stage

/-- The phases of a stage, if a lookup has this answer. -/
def phases (found : Bool) : Stage → List Phase
  | update => [.update]
  | ensure formula => [.ensure formula]
  | ensureUnlessFound formula =>
    .lookup formula.name found :: if found then [] else [.ensure formula]
  | keepCompiler _ => []
  | install formula => [.install formula]
  | pipInstall package => [.pipInstall package]

variable {tooling : Tooling}

/-- A measured command that has to succeed is one phase. -/
theorem carriesOut_required (tooling : Tooling) (phase : Phase) (line : CommandLine)
    (makes : ∀ calls failure, Phase.Requires line calls failure →
      phase.Makes tooling calls failure) (name : String) :
    Step.CarriesOut tooling (Step.timed name (discard (Step.commandChecked .stream line)))
      [phase] fun measured => measured.2.name = name := by
  refine Step.CarriesOut.timed (Step.carriesOut_singleton fun calls result h => ?_) name
  obtain ⟨answer, rfl, rfl⟩ := Step.yields_discard_commandChecked_iff.mp h
  exact makes _ _ ⟨answer, rfl, failure?_map _ _⟩

/-- Ensuring a formula as a measured step is one phase. -/
theorem carriesOut_ensure (formula : Formula) :
    Step.CarriesOut tooling (tooling.ensure formula) [.ensure formula]
      fun measured => measured.2.name = "ensure " ++ formula.name := by
  rw [Tooling.ensure]
  refine Step.CarriesOut.bind_silent (Step.CarriesOut.timed (Step.carriesOut_singleton ?_) _) ?_
  · intro calls result h
    exact ⟨result, h, rfl⟩
  · rintro ⟨outcome, record⟩ named
    exact (Step.carriesOut_pure (outcome, record) named).log_bind (.ensured formula.name outcome)

/-- The records of a stage bear the names that some phases give them. -/
def Records (phases : List Phase) (records : List StepRecord) : Prop :=
  records.map StepRecord.name = phases.filterMap Phase.recordName?

/-- A measured step that carries out one phase and is recorded is a stage with one record. -/
theorem carriesOut_recorded {step : Step (α × StepRecord)} {phase : Phase} {name : String}
    (h : Step.CarriesOut tooling step [phase] fun measured => measured.2.name = name)
    (named : phase.recordName? = some name) :
    Step.CarriesOut tooling (step >>= fun measured => pure [measured.2]) [phase]
      (Records [phase]) := by
  refine h.bind_silent fun measured hname => Step.carriesOut_pure _ ?_
  rw [Records, List.map_singleton, hname, List.filterMap_cons_some named, List.filterMap_nil]

/-- Phases are carried out, and if none of them fails, the records are theirs. -/
def Accomplishes (tooling : Tooling) (phases : List Phase) (calls : List Call)
    (result : Except Failure (List StepRecord)) : Prop :=
  Phase.CarriedOut tooling phases calls (failure? result) ∧
    ∀ records, result = .ok records → Records phases records

namespace Accomplishes

variable {phases others : List Phase} {before after calls : List Call}

/-- Phases that succeed are followed by others, and their records as well. -/
theorem append {first : List StepRecord} {result : Except Failure (List StepRecord)}
    (done : Accomplishes tooling phases before (.ok first))
    (more : Accomplishes tooling others after result) :
    Accomplishes tooling (phases ++ others) (before ++ after) (result.map (first ++ ·)) := by
  rw [Accomplishes, failure?_map]
  refine ⟨done.1.append more.1, fun records same => ?_⟩
  cases result with
  | error failure => cases same
  | ok rest =>
    cases same
    rw [Records, List.map_append, List.filterMap_append, done.2 first rfl, more.2 rest rfl]

/-- Phases of which one fails are followed by nothing. -/
theorem append_of_error {failure : Failure}
    (failed : Accomplishes tooling phases calls (.error failure)) (others : List Phase) :
    Accomplishes tooling (phases ++ others) calls (.error failure) :=
  ⟨failed.1.append_of_failure others, fun _ same => by cases same⟩

end Accomplishes

/-- **What a stage calls and records** is settled by its phases. -/
theorem accomplishes_of_run {stage : Stage} {calls : List Call}
    {result : Except Failure (List StepRecord)} (h : (stage.run tooling).Yields calls result) :
    ∃ found, Accomplishes tooling (stage.phases found) calls result := by
  cases stage with
  | update =>
    have required := carriesOut_required tooling .update tooling.brew.updateLine
      (fun _ _ h => h) "brew update"
    exact ⟨false, carriesOut_recorded required rfl h⟩
  | ensure formula => exact ⟨false, carriesOut_recorded (carriesOut_ensure formula) rfl h⟩
  | ensureUnlessFound formula =>
    -- The phases of this stage are those for the answer that was given.
    obtain ⟨found, rest, rfl, hrest⟩ := Step.yields_lookup_bind_iff.mp h
    have looked : (Phase.lookup formula.name found).Makes tooling
        [.lookup formula.name found] none := ⟨rfl, rfl⟩
    cases found with
    | true =>
      have kept : Records [] [] := rfl
      obtain ⟨hphases, hrecords⟩ :=
        (Step.carriesOut_pure [] kept).log_bind (.alreadyOnPath formula.name) hrest
      exact ⟨true, .continued looked hphases, hrecords⟩
    | false =>
      obtain ⟨hphases, hrecords⟩ := carriesOut_recorded (carriesOut_ensure formula) rfl hrest
      exact ⟨false, .continued looked hphases, hrecords⟩
  | keepCompiler compiler =>
    have kept : Records [] [] := rfl
    exact ⟨false, (Step.carriesOut_pure [] kept).log_bind (.defaultCompiler compiler) h⟩
  | install formula =>
    have required := carriesOut_required tooling (.install formula)
      (tooling.brew.installLine formula) (fun _ _ h => h) ("install " ++ formula.name)
    exact ⟨false, carriesOut_recorded required rfl h⟩
  | pipInstall package =>
    have required := carriesOut_required tooling (.pipInstall package)
      (tooling.pip.installLine package) (fun _ _ h => h) ("pip install " ++ package)
    exact ⟨false, carriesOut_recorded required rfl h⟩

/-- A stage does not hang on a lookup if it has the same phases for either answer. -/
def Unconditional (stage : Stage) : Prop :=
  stage.phases true = stage.phases false

/-- An unconditional stage has the same phases for any two answers. -/
theorem Unconditional.phases_eq {stage : Stage} (h : stage.Unconditional) (found other : Bool) :
    stage.phases found = stage.phases other := by
  cases found <;> cases other <;> first | rfl | exact h | exact h.symm

/-- **What a list of stages calls and records** is settled by their phases, as long as at most one
of them hangs on a lookup. -/
theorem accomplishes_of_runAll {stages : List Stage}
    (one : stages.Pairwise fun first second => first.Unconditional ∨ second.Unconditional)
    {calls : List Call} {result : Except Failure (List StepRecord)}
    (h : (runAll tooling stages).Yields calls result) :
    ∃ found, Accomplishes tooling (stages.flatMap (phases found)) calls result := by
  induction stages generalizing calls result with
  | nil =>
    have none : Records [] [] := rfl
    exact ⟨false, Step.carriesOut_pure [] none h⟩
  | cons stage rest ih =>
    obtain ⟨apart, one⟩ := List.pairwise_cons.mp one
    rcases Step.yields_bind_iff.mp h with
      ⟨failure, rfl, failed⟩ | ⟨first, before, after, rfl, done, more⟩
    · obtain ⟨found, hstage⟩ := accomplishes_of_run failed
      exact ⟨found, hstage.append_of_error _⟩
    · rw [Step.yields_bind_quiet_iff fun _ _ _ => Step.yields_pure_iff] at more
      obtain ⟨others, hothers, rfl⟩ := more
      obtain ⟨found, hstage⟩ := accomplishes_of_run done
      obtain ⟨foundLater, hrest⟩ := ih one hothers
      -- The answer that counts is that of the one stage that looks something up.
      by_cases unconditional : stage.Unconditional
      · refine ⟨foundLater, ?_⟩
        rw [List.flatMap_cons, unconditional.phases_eq foundLater found]
        exact hstage.append hrest
      · refine ⟨found, ?_⟩
        have same : rest.flatMap (phases found) = rest.flatMap (phases foundLater) := by
          refine List.flatMap_congr fun later mem => ?_
          exact ((apart later mem).resolve_left unconditional).phases_eq found foundLater
        rw [List.flatMap_cons, same]
        exact hstage.append hrest

end Stage

namespace Plan

variable {plan : Plan} {tooling : Tooling}

/-- The phases of a plan are those of its stages. -/
theorem flatMap_phases_stages (plan : Plan) (found : Bool) :
    plan.stages.flatMap (Stage.phases found) = plan.phases found := by
  have ensures : (plan.basePackages.map Stage.ensure).flatMap (Stage.phases found) =
      plan.basePackages.map Phase.ensure := by
    rw [List.flatMap_map, List.map_eq_flatMap]
    rfl
  have installs : (plan.pythonPackages.map Stage.pipInstall).flatMap (Stage.phases found) =
      plan.pythonPackages.map Phase.pipInstall := by
    rw [List.flatMap_map, List.map_eq_flatMap]
    rfl
  have compiler : (compilerStage plan.compiler).phases found =
      plan.compiler.formula?.toList.map .ensure := by
    rw [compilerStage]
    cases plan.compiler.formula? <;> rfl
  rw [stages, List.flatMap_append, List.flatMap_append, List.flatMap_cons, ensures, installs]
  simp only [List.flatMap_cons, compiler]
  simp [phases, Stage.phases]

/-- Only the build system hangs on a lookup. -/
theorem pairwise_unconditional_stages (plan : Plan) :
    plan.stages.Pairwise fun first second => first.Unconditional ∨ second.Unconditional := by
  have compiler : (compilerStage plan.compiler).Unconditional := by
    rw [compilerStage]
    cases plan.compiler.formula? <;> rfl
  have update : Stage.update.Unconditional := rfl
  have ensures : ∀ formula, (Stage.ensure formula).Unconditional := fun _ => rfl
  have install : (Stage.install plan.pythonFormula).Unconditional := rfl
  have installs : ∀ package, (Stage.pipInstall package).Unconditional := fun _ => rfl
  have bases : (plan.basePackages.map Stage.ensure).Pairwise
      fun first second => first.Unconditional ∨ second.Unconditional :=
    List.pairwise_map.mpr (List.pairwise_of_forall fun formula _ => .inl (ensures formula))
  have packages : (plan.pythonPackages.map Stage.pipInstall).Pairwise
      fun first second => first.Unconditional ∨ second.Unconditional :=
    List.pairwise_map.mpr (List.pairwise_of_forall fun package _ => .inl (installs package))
  simp [stages, List.pairwise_append, bases, packages, compiler, update, ensures, install, installs]

/-- A report says what was done: its steps bear the names that some phases give them, and the update
puts the directory of the plan in front of the search path. -/
def Reports (plan : Plan) (phases : List Phase) (report : Report) : Prop :=
  report.stepNames = phases.filterMap Phase.recordName? ∧ report.pathUpdate = ⟨plan.binDirectory⟩

/-- **What a plan calls and reports** is settled by its phases, for the answer that the lookup
gave. -/
theorem carriedOut_of_provision {calls : List Call} {result : Except Failure Report}
    (h : (plan.provision tooling).Yields calls result) :
    ∃ found, Phase.CarriedOut tooling (plan.phases found) calls (failure? result) ∧
      ∀ report, result = .ok report → plan.Reports (plan.phases found) report := by
  rw [provision, Step.yields_inSpan_iff, Step.yields_bind_quiet_iff fun _ _ _ => by
    rw [Step.yields_log_bind_iff, Step.yields_pure_iff]] at h
  obtain ⟨steps, hsteps, rfl⟩ := h
  obtain ⟨found, hstages⟩ := Stage.accomplishes_of_runAll plan.pairwise_unconditional_stages hsteps
  rw [flatMap_phases_stages] at hstages
  rw [failure?_map]
  refine ⟨found, hstages.1, fun report same => ?_⟩
  cases steps with
  | error failure => cases same
  | ok records =>
    cases same
    exact ⟨hstages.2 records rfl, rfl⟩

/-- **The phases are those for the answer that is given**: if the lookup of the build system has one
answer whenever it is made, the phases for that answer settle what is called and reported. -/
theorem carriedOut_of_answered {calls : List Call} {result : Except Failure Report}
    (h : (plan.provision tooling).Yields calls result) {found : Bool}
    (answered : ∀ answer, .lookup plan.buildSystem.name answer ∈ calls → answer = found) :
    Phase.CarriedOut tooling (plan.phases found) calls (failure? result) ∧
      ∀ report, result = .ok report → plan.Reports (plan.phases found) report := by
  obtain ⟨given, carriedOut, reports⟩ := carriedOut_of_provision h
  have split (answer : Bool) : ∃ later : List Phase, plan.phases answer =
      ([.update] ++ plan.basePackages.map .ensure) ++
        .lookup plan.buildSystem.name answer :: later := by
    simp only [phases, List.append_assoc, List.cons_append]
    exact ⟨_, rfl⟩
  obtain ⟨later, hgiven⟩ := split given
  rw [hgiven] at carriedOut
  rcases carriedOut.of_append with ⟨failure, failed, hfirst⟩ | ⟨before, after, rfl, -, hafter⟩
  · -- The run ends before the lookup, so the phases after it do not matter.
    obtain ⟨_, hfound⟩ := split found
    rw [hfound, failed]
    refine ⟨hfirst.append_of_failure _, fun report same => ?_⟩
    rw [same] at failed
    cases failed
  · have same : given = found := by
      refine answered given (List.mem_append_right _ ?_)
      generalize failure? result = ending at hafter
      cases hafter with
      | continued done _ =>
        obtain ⟨rfl, -⟩ := done
        exact List.mem_cons_self
      | stopped failed => cases failed.2
    rw [← same]
    exact ⟨hgiven ▸ carriedOut, reports⟩

end Plan

end HostProvision
