import HostProvision.Proofs.Homebrew.Listing
import HostProvision.Proofs.Lockstep
import HostProvision.Proofs.Provision.Failures

/-! # What steers a run

How a provisioning run goes on depends on little of what the host answers: on exit codes and on
errors, on lookups, and on which formulas are listed.

* `Homebrew.alike` says which answers are alike in this respect. What a command printed counts for
  the listing of installed formulas only, and there just for the formulas that are ensured.
* **Ensuring a formula goes by no more than that**, `Homebrew.inStep_ensure`: the check for a newer
  version is read into one of three results, of which two are treated alike.
* **Only the listing steers a run**, `Plan.sameCourse_of_answersLike`: on two hosts that answer
  alike a plan makes the same calls and comes to the same result. -/

namespace HostProvision

variable {σ τ : Type}

namespace Homebrew

/-- Answers are alike if they are the same error or have the same exit code, or are the same answer
to a lookup, and if listings agree on the formulas that are ensured. -/
def alike (brew : Homebrew) (ensured : String → Prop) : Likeness
  | .command mode line, answer, other =>
    answer.map Reply.code = other.map Reply.code ∧
      (mode = .capture → line = brew.listLine →
        ∀ listing another, answer = .ok listing → other = .ok another →
          ∀ name, ensured name → (Lists listing.stdout name ↔ Lists another.stdout name))
  | .lookup _, found, other => found = other
  | .clock, _, _ | .append .., _, _ | .openLogs _, _, _ => True

variable {brew : Homebrew} {ensured : String → Prop} {formula : Formula} {mode : Mode}
  {line : CommandLine}

/-- Alike answers to a command are the same error, or replies with the same exit code. -/
theorem agree_of_alike {answer other : Except IoError Reply} {same : Reply → Reply → Prop}
    (like : brew.alike ensured (.command mode line) answer other)
    (related : ∀ reply another, answer = .ok reply → other = .ok another → same reply another) :
    Agree (fun reply another => reply.code = another.code ∧ same reply another)
      (Step.received answer) (Step.received other) := by
  have codes := like.1
  cases answer with
  | ok reply =>
    cases other with
    | ok another => exact .ok ⟨Except.ok.inj codes, related reply another rfl rfl⟩
    | error cause => cases codes
  | error cause =>
    cases other with
    | ok another => cases codes
    | error reason =>
      rw [Except.error.inj codes]
      exact .error _

/-- Replies with the same exit code both succeed or both fail. -/
theorem succeeded_congr {reply other : Reply} (code : reply.code = other.code) :
    reply.succeeded = other.succeeded := by
  rw [Reply.succeeded, Reply.succeeded, code]

/-- A command goes by its exit code. -/
theorem inStep_command : Step.InStep (brew.alike ensured)
    (fun reply other => reply.code = other.code) (Step.command mode line)
    (Step.command mode line) := by
  refine Step.inStep_command fun answer other like => ?_
  have agree := agree_of_alike like fun _ _ _ _ => trivial
  exact agree.mono fun _ _ related => related.1

/-- A command that has to succeed goes by its exit code. -/
theorem inStep_required : Step.InStep (brew.alike ensured) (fun _ _ => True)
    (discard (Step.commandChecked mode line)) (discard (Step.commandChecked mode line)) := by
  have checked : Step.InStep (brew.alike ensured) (fun _ _ => True)
      (Step.commandChecked mode line) (Step.commandChecked mode line) :=
    Step.inStep_commandChecked fun _ _ like => agree_of_alike like fun _ _ _ _ => trivial
  exact checked.map fun _ _ _ => trivial

/-- Whether a formula is installed goes by whether it is listed. -/
theorem inStep_isInstalled {name : String} (mem : ensured name) :
    Step.InStep (brew.alike ensured) Eq (brew.isInstalled name) (brew.isInstalled name) := by
  have listings : Step.InStep (brew.alike ensured)
      (fun listing other => Lists listing.stdout name ↔ Lists other.stdout name)
      (Step.commandChecked .capture brew.listLine)
      (Step.commandChecked .capture brew.listLine) :=
    Step.inStep_commandChecked fun _ _ like => agree_of_alike like
      fun listing other given replied => like.2 rfl rfl listing other given replied name mem
  refine (listings.bind fun listing other same => Step.inStep_pure ?_).bind
    fun names others (same : name ∈ names ↔ name ∈ others) => ?_
  · rw [mem_listedNames_iff, mem_listedNames_iff]
    exact same
  · have answers : names.contains name = others.contains name := by
      rw [Bool.eq_iff_iff, List.contains_iff_mem, List.contains_iff_mem]
      exact same
    rw [answers]
    exact Step.InStep.log_bind (Step.inStep_pure rfl)

/-- What the check for a newer version printed only matters for the log: a formula that is outdated
and one for which the check failed are both upgraded. -/
theorem inStep_outdated {name : String} : Step.InStep (brew.alike ensured)
    (fun status other => status.needsUpgrade = other.needsUpgrade) (brew.outdated name)
    (brew.outdated name) := by
  refine inStep_command.bind fun reply other code =>
    Step.InStep.log_bind (Step.inStep_pure ?_)
  rw [needsUpgrade_statusOf, needsUpgrade_statusOf, succeeded_congr code]

theorem inStep_ensureNewest :
    Step.InStep (brew.alike ensured) Eq (brew.ensureNewest formula)
      (brew.ensureNewest formula) := by
  refine inStep_outdated.bind fun status other same => ?_
  by_cases needed : status.needsUpgrade
  · rw [if_pos needed, if_pos (same ▸ needed)]
    exact Step.InStep.log_bind (inStep_required.bind fun _ _ _ => Step.inStep_pure rfl)
  · rw [if_neg needed, if_neg (same ▸ needed)]
    exact Step.InStep.log_bind (Step.inStep_pure rfl)

theorem inStep_ensurePresent :
    Step.InStep (brew.alike ensured) Eq (brew.ensurePresent formula)
      (brew.ensurePresent formula) := by
  refine Step.InStep.log_bind (inStep_command.bind fun installation other code => ?_)
  rw [succeeded_congr code]
  by_cases installed : other.succeeded
  · rw [if_pos installed, if_pos installed]
    exact Step.inStep_pure rfl
  · rw [if_neg installed, if_neg installed]
    refine Step.InStep.log_bind (inStep_command.bind fun relinking another linked => ?_)
    rw [succeeded_congr linked, linked]
    by_cases relinked : another.succeeded
    · rw [if_pos relinked]
      exact Step.inStep_pure rfl
    · rw [if_neg relinked]
      exact Step.inStep_throw _

/-- **Ensuring a formula goes by exit codes, by errors and by whether it is listed.** -/
theorem inStep_ensure (mem : ensured formula.name) :
    Step.InStep (brew.alike ensured) Eq (brew.ensure formula) (brew.ensure formula) := by
  refine (inStep_isInstalled mem).bind fun installed other same => ?_
  rw [← same]
  cases installed with
  | true => exact inStep_ensureNewest
  | false => exact inStep_ensurePresent

end Homebrew

/-- Nothing is known about answers, except that a program is found, or is not. -/
def Request.Finds (program : String) (found : Bool) : (request : Request) → request.Answer → Prop
  | .lookup other, answer => other = program → answer = found
  | .clock, _ | .command .., _ | .append .., _ | .openLogs _, _ => True

namespace Stage

/-- Records of the same steps, whatever time these took. -/
def SameSteps (records others : List StepRecord) : Prop :=
  records.map StepRecord.name = others.map StepRecord.name

variable {tooling : Tooling} {ensured : String → Prop} {program : String} {found : Bool}

/-- A measured step is recorded by its name. -/
theorem inStep_recorded {alike : Likeness} {α : Type} {same : α → α → Prop}
    {step : Step (α × StepRecord)} (h : Step.InStep alike (Step.SameMeasured same) step step) :
    Step.InStep alike SameSteps (step >>= fun measured => pure [measured.2])
      (step >>= fun measured => pure [measured.2]) :=
  h.bind fun _ _ related => Step.inStep_pure (congrArg (fun name => [name]) related.2)

/-- A measured command that has to succeed is recorded by its name. -/
theorem inStep_required (name : String) (line : CommandLine) :
    Step.InStep (tooling.brew.alike ensured) SameSteps
      (Step.timed name (discard (Step.commandChecked .stream line)) >>=
        fun measured => pure [measured.2])
      (Step.timed name (discard (Step.commandChecked .stream line)) >>=
        fun measured => pure [measured.2]) :=
  inStep_recorded (Homebrew.inStep_required.timed name)

/-- Ensuring a formula as a recorded step goes by what ensuring it goes by. -/
theorem inStep_ensure {formula : Formula} (mem : ensured formula.name) :
    Step.InStep (tooling.brew.alike ensured) SameSteps (Stage.run tooling (.ensure formula))
      (Stage.run tooling (.ensure formula)) := by
  have measured : Step.InStep (tooling.brew.alike ensured) (Step.SameMeasured Eq)
      (tooling.ensure formula) (tooling.ensure formula) :=
    ((Homebrew.inStep_ensure mem).timed _).bind fun _ _ related =>
      Step.InStep.log_bind (Step.inStep_pure related)
  exact inStep_recorded measured

/-- A stage that ensures nothing but the given formulas goes by no other listed formula, if it is
known what its lookup answers. -/
theorem inStep_run {stage : Stage}
    (ensures : ∀ formula, .ensure formula ∈ stage.phases found → ensured formula.name)
    (looksUp : ∀ formula, stage = .ensureUnlessFound formula → formula.name = program) :
    Step.InStep ((tooling.brew.alike ensured).knowing (Request.Finds program found)) SameSteps
      (stage.run tooling) (stage.run tooling) := by
  cases stage with
  | update => exact (inStep_required "brew update" tooling.brew.updateLine).knowing _
  | ensure formula => exact (inStep_ensure (ensures formula List.mem_cons_self)).knowing _
  | ensureUnlessFound formula =>
    have lookup : Step.InStep
        ((tooling.brew.alike ensured).knowing (Request.Finds program found))
        (fun answer other => answer = found ∧ other = found) (Step.lookup formula.name)
        (Step.lookup formula.name) :=
      Step.inStep_lookup fun answer other like =>
        have given : answer = found := like.2 (looksUp formula rfl)
        ⟨given, like.1.symm.trans given⟩
    refine lookup.bind fun answer other related => ?_
    -- The formula is only ensured, and has to be one of the given, if it is not found.
    rw [related.1, related.2]
    cases found with
    | true => exact Step.InStep.log_bind (Step.inStep_pure rfl)
    | false =>
      have mem : ensured formula.name :=
        ensures formula (List.mem_cons_of_mem _ List.mem_cons_self)
      exact (inStep_ensure mem).knowing _
  | keepCompiler compiler => exact Step.InStep.log_bind (Step.inStep_pure rfl)
  | install formula =>
    exact (inStep_required ("install " ++ formula.name)
      (tooling.brew.installLine formula)).knowing _
  | pipInstall package =>
    exact (inStep_required ("pip install " ++ package) (tooling.pip.installLine package)).knowing _

/-- Stages one after another go by what each of them goes by. -/
theorem inStep_runAll {alike : Likeness} {stages : List Stage}
    (h : ∀ stage ∈ stages, Step.InStep alike SameSteps (stage.run tooling) (stage.run tooling)) :
    Step.InStep alike SameSteps (runAll tooling stages) (runAll tooling stages) := by
  induction stages with
  | nil => exact Step.inStep_pure rfl
  | cons stage rest ih =>
    obtain ⟨first, others⟩ := List.forall_mem_cons.mp h
    refine first.bind fun records records' same => (ih others).bind fun later later' more =>
      Step.inStep_pure ?_
    rw [SameSteps, List.map_append, List.map_append, same, more]

end Stage

/-! ## What is looked up -/

/-- A phase in which a program is looked up is nothing else. -/
theorem Phase.Makes.eq_lookup {phase : Phase} {tooling : Tooling} {calls : List Call}
    {ending : Option Failure} (h : phase.Makes tooling calls ending) {program : String}
    {answer : Bool} (mem : .lookup program answer ∈ calls) : phase = .lookup program answer := by
  cases phase with
  | lookup other found =>
    obtain ⟨rfl, -⟩ := h
    cases List.mem_singleton.mp mem
    rfl
  | update | install formula | pipInstall package =>
    obtain ⟨reply, rfl, -⟩ := h
    cases List.mem_singleton.mp mem
  | ensure formula =>
    obtain ⟨result, yields, -⟩ := h
    cases Homebrew.ensureCourse_of_yields yields <;> simp at mem

/-- Only phases that look a program up do so. -/
theorem Phase.CarriedOut.lookup_mem {tooling : Tooling} {phases : List Phase} {calls : List Call}
    {ending : Option Failure} (h : CarriedOut tooling phases calls ending) {program : String}
    {answer : Bool} (mem : .lookup program answer ∈ calls) : .lookup program answer ∈ phases := by
  induction h with
  | finished => cases mem
  | continued done _ ih =>
    rcases List.mem_append.mp mem with first | later
    · rw [done.eq_lookup first]
      exact List.mem_cons_self
    · exact List.mem_cons_of_mem _ (ih later)
  | stopped failed =>
    rw [failed.eq_lookup mem]
    exact List.mem_cons_self

namespace Plan

/-- The names of the formulas that a plan ensures, if the lookup of the build system has this
answer. -/
def Ensured (plan : Plan) (found : Bool) (name : String) : Prop :=
  ∃ formula, .ensure formula ∈ plan.phases found ∧ formula.name = name

/-- Reports of the same steps and the same update of the search path. -/
def SameReport (report other : Report) : Prop :=
  report.stepNames = other.stepNames ∧ report.pathUpdate = other.pathUpdate

/-- The only formula that is looked up is the build system. -/
theorem eq_buildSystem_of_mem_stages {plan : Plan} {formula : Formula}
    (mem : .ensureUnlessFound formula ∈ plan.stages) : formula = plan.buildSystem := by
  have compiler : Stage.ensureUnlessFound formula ≠ compilerStage plan.compiler := by
    rw [compilerStage]
    cases plan.compiler.formula? <;> simp
  simpa [stages, compiler] using mem

/-- In every run the lookup of the build system has one answer at most. -/
theorem exists_answer_of_lookup (plan : Plan) (tooling : Tooling) (world : World σ) (state : σ) :
    ∃ found, ∀ answer, .lookup plan.buildSystem.name answer ∈
      (world.run (plan.provision tooling).run state).calls → answer = found := by
  obtain ⟨found, carriedOut, -⟩ := carriedOut_of_provision
    (world.run_yields (plan.provision tooling).run state)
  refine ⟨found, fun answer mem => ?_⟩
  have reached : .lookup plan.buildSystem.name answer ∈ plan.phases found :=
    carriedOut.lookup_mem mem
  cases found <;> simpa [phases] using reached

/-- **Provisioning goes by exit codes, by errors, by the lookup and by which of the ensured formulas
are listed.** -/
theorem inStep_provision (plan : Plan) (tooling : Tooling) (found : Bool) :
    Step.InStep
      ((tooling.brew.alike (plan.Ensured found)).knowing
        (Request.Finds plan.buildSystem.name found))
      SameReport (plan.provision tooling) (plan.provision tooling) := by
  have stages : Step.InStep
      ((tooling.brew.alike (plan.Ensured found)).knowing
        (Request.Finds plan.buildSystem.name found))
      Stage.SameSteps (Stage.runAll tooling plan.stages) (Stage.runAll tooling plan.stages) := by
    refine Stage.inStep_runAll fun stage mem => Stage.inStep_run ?_ ?_
    · intro formula ensured
      refine ⟨formula, ?_, rfl⟩
      rw [← flatMap_phases_stages]
      exact List.mem_flatMap.mpr ⟨stage, mem, ensured⟩
    · rintro formula rfl
      rw [eq_buildSystem_of_mem_stages mem]
  rw [provision]
  refine Step.InStep.inSpan (stages.bind fun records others same => ?_) _
  exact Step.InStep.log_bind (Step.inStep_pure ⟨same, rfl⟩)

/-- **Only the listing steers a run.** In every run the lookup of the build system has one answer at
most. Take two hosts that answer alike whatever they were asked before: commands with the same exit
code or the same error, lookups in the same way, and listings that agree on each formula that the
plan ensures for that answer. Whatever else they print, and how long they take, the plan makes the
same calls on both, and fails in the same way or reports the same steps and the same update of the
search path. -/
theorem sameCourse_of_answersLike (plan : Plan) (tooling : Tooling) (first : World σ)
    (second : World τ) (state : σ) (start : τ) :
    let run := first.run (plan.provision tooling).run state
    let other := second.run (plan.provision tooling).run start
    let answers := fun found => ∀ answer,
      .lookup plan.buildSystem.name answer ∈ run.calls → answer = found
    (∃ found, answers found) ∧
      ∀ found, answers found →
        first.AnswersLike (tooling.brew.alike (plan.Ensured found)) state second start →
          run.calls.map Call.request = other.calls.map Call.request ∧
            Agree SameReport run.value other.value := by
  intro run other answers
  refine ⟨plan.exists_answer_of_lookup tooling first state, fun found answered answersLike => ?_⟩
  refine (plan.inStep_provision tooling found).run answersLike fun request answer mem => ?_
  cases request with
  | lookup program =>
    rintro rfl
    exact answered answer (List.mem_filterMap.mpr ⟨_, mem, rfl⟩)
  | clock | command _ _ | append _ _ | openLogs _ => trivial

/-- A host on which every program is found, no formula is known to be up to date, and commands print
the given texts. -/
def printing (listing check other : String) : World Unit where
  handle
    | .clock, _ => ⟨.zero, [], ()⟩
    | .command .capture line, _ =>
      if line = Tooling.usual.brew.listLine then ⟨.ok ⟨some 0, listing⟩, [], ()⟩
      else ⟨.ok ⟨some 1, check⟩, [], ()⟩
    | .command .stream _, _ => ⟨.ok ⟨some 0, other⟩, [], ()⟩
    | .lookup _, _ => ⟨true, [], ()⟩
    | .append .., _ => ⟨.ok (), [], ()⟩
    | .openLogs _, _ => ⟨.opened, [], ()⟩

/-- On such a host every lookup succeeds. -/
theorem eq_true_of_lookup_printing {listing check other : String} {α : Type}
    {procedure : Procedure α} {program : String} {answer : Bool}
    (mem : .lookup program answer ∈ ((printing listing check other).run procedure ()).calls) :
    answer = true := by
  induction procedure with
  | done value => cases mem
  | notify notice next ih => exact ih mem
  | ask request next ih =>
    rw [World.calls_run_ask, List.mem_append] at mem
    rcases mem with own | later
    · cases request with
      | lookup asked =>
        cases List.mem_singleton.mp own
        rfl
      | command mode line => cases List.mem_singleton.mp own
      | clock | append _ _ | openLogs _ => cases own
    · exact ih _ later

/-- Such hosts answer alike if their listings agree on the formulas that are ensured. -/
theorem answersLike_printing {listing listing' check check' other other' : String}
    {ensured : String → Prop}
    (same : ∀ name, ensured name →
      (Homebrew.Lists listing name ↔ Homebrew.Lists listing' name)) :
    (printing listing check other).AnswersLike (Tooling.usual.brew.alike ensured) ()
      (printing listing' check' other') () := by
  intro history request
  cases request with
  | command mode line =>
    cases mode with
    | stream => exact ⟨rfl, fun captured => by cases captured⟩
    | capture =>
      by_cases isListing : line = Tooling.usual.brew.listLine
      · simp only [printing, if_pos isListing]
        refine ⟨rfl, fun _ _ reply another given replied => ?_⟩
        rw [← Except.ok.inj given, ← Except.ok.inj replied]
        exact same
      · simp only [printing, if_neg isListing]
        exact ⟨rfl, fun _ listed => absurd listed isListing⟩
  | lookup program => rfl
  | clock | append _ _ | openLogs _ => trivial

/-- A check that prints nothing means something else than one that names the formula, and another
formula is listed besides, but the same is done on both hosts. -/
theorem sameCourse_printing :
    let quiet := printing "wget\n" "" ""
    let wordy := printing "zsh\nwget\n" "wget (1.20) < 1.21\n" "Done.\n"
    let run := quiet.run (wget.provision .usual).run ()
    let other := wordy.run (wget.provision .usual).run ()
    Homebrew.statusOf ⟨some 1, ""⟩ "wget" = .checkFailed ∧
      Homebrew.statusOf ⟨some 1, "wget (1.20) < 1.21\n"⟩ "wget" = .outdated ∧
      (∀ answer, .lookup "cmake" answer ∈ run.calls → answer = true) ∧
      quiet.AnswersLike (Tooling.usual.brew.alike (wget.Ensured true)) () wordy () ∧
      run.calls.map Call.request = other.calls.map Call.request ∧
      Agree SameReport run.value other.value := by
  intro quiet wordy run other
  have answered : ∀ answer, .lookup "cmake" answer ∈ run.calls → answer = true :=
    fun _ mem => eq_true_of_lookup_printing mem
  have answersLike : quiet.AnswersLike (Tooling.usual.brew.alike (wget.Ensured true)) () wordy
      () := by
    refine answersLike_printing fun name ⟨formula, ensured, named⟩ => ?_
    have wget : formula = ⟨"wget", []⟩ := by
      simpa [phases, Plan.wget, Compiler.formula?] using ensured
    have first : Homebrew.listedNames "wget\n" = ["wget"] := by decide +kernel
    have second : Homebrew.listedNames "zsh\nwget\n" = ["zsh", "wget"] := by decide +kernel
    rw [← named, wget, ← Homebrew.mem_listedNames_iff, ← Homebrew.mem_listedNames_iff, first,
      second]
    simp
  obtain ⟨calls, values⟩ :=
    (sameCourse_of_answersLike wget .usual quiet wordy () ()).2 true answered answersLike
  exact ⟨by decide +kernel, by decide +kernel, answered, answersLike, calls, values⟩

end Plan

end HostProvision
