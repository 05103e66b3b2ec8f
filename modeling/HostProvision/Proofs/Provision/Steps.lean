import HostProvision.Proofs.Provision.Steering

/-! # What a report describes

The steps of a report are read off the plan and the one answer that steers it.

* `Plan.stepNames` names the steps of a plan, for either answer to the lookup of the build system.
* `Plan.lookup_mem_iff` says what a run that succeeds has looked up: the build system and nothing
  else, with one answer.
* **A report describes the plan and nothing else**, `Plan.report_of_provision_eq_ok`: neither what
  was done for a formula nor what a command printed leaves a trace in it. -/

namespace HostProvision

variable {σ : Type}

namespace Plan

/-- The names of the steps of a plan, in order, if the lookup of the build system has this
answer. -/
def stepNames (plan : Plan) (found : Bool) : List String :=
  ["brew update"] ++ plan.basePackages.map (fun formula => "ensure " ++ formula.name) ++
    (if found then [] else ["ensure " ++ plan.buildSystem.name]) ++
    plan.compiler.formula?.toList.map (fun formula => "ensure " ++ formula.name) ++
    ["install " ++ plan.pythonFormula.name] ++
    plan.pythonPackages.map (fun package => "pip install " ++ package)

variable {plan : Plan} {tooling : Tooling}

/-- The records that the phases of a plan leave bear the names of its steps. -/
theorem filterMap_recordName?_phases (plan : Plan) (found : Bool) :
    (plan.phases found).filterMap Phase.recordName? = plan.stepNames found := by
  have ensures (formulas : List Formula) :
      (formulas.map Phase.ensure).filterMap Phase.recordName? =
        formulas.map fun formula => "ensure " ++ formula.name := by
    rw [List.filterMap_map]
    exact congrFun List.filterMap_eq_map formulas
  have installs : (plan.pythonPackages.map Phase.pipInstall).filterMap Phase.recordName? =
      plan.pythonPackages.map fun package => "pip install " ++ package := by
    rw [List.filterMap_map]
    exact congrFun List.filterMap_eq_map plan.pythonPackages
  rw [phases, stepNames]
  simp only [List.filterMap_append, ensures, installs]
  -- The lookup leaves no record, and the build system is ensured for one of the answers.
  cases found <;> simp [Phase.recordName?]

/-- Phases of a plan of which none failed look the build system up, with the answer that they are
for, and nothing else. -/
theorem lookup_mem_iff {found : Bool} {calls : List Call}
    (done : Phase.CarriedOut tooling (plan.phases found) calls none) (program : String)
    (answer : Bool) :
    .lookup program answer ∈ calls ↔ program = plan.buildSystem.name ∧ answer = found := by
  constructor
  · intro called
    have reached : .lookup program answer ∈ plan.phases found := done.lookup_mem called
    cases found <;> simpa [phases] using reached
  · rintro ⟨rfl, rfl⟩
    obtain ⟨legs, hphases, hlegs, rfl⟩ := done.exists_legs_of_done
    exact lookup_mem_of_legs hphases hlegs

/-- A run that succeeds has looked the build system up, and its report is settled by the answer. -/
theorem exists_answer_of_provision_eq_ok (plan : Plan) (tooling : Tooling) (world : World σ)
    (state : σ) {report : Report}
    (succeeded : (world.run (plan.provision tooling).run state).value = .ok report) :
    ∃ found, (∀ program answer,
        .lookup program answer ∈ (world.run (plan.provision tooling).run state).calls ↔
          program = plan.buildSystem.name ∧ answer = found) ∧
      report.stepNames = plan.stepNames found ∧ report.pathUpdate = ⟨plan.binDirectory⟩ := by
  obtain ⟨found, done, reports⟩ := carriedOut_of_provision
    (world.run_yields (plan.provision tooling).run state)
  rw [succeeded, failure?_ok] at done
  obtain ⟨names, update⟩ := reports report succeeded
  exact ⟨found, lookup_mem_iff done, names.trans (plan.filterMap_recordName?_phases found), update⟩

/-- **A report describes the plan and nothing else.** On every host, a run that succeeds has looked
up the build system and nothing else, with one answer, and its report names the steps of the plan
for that answer, in order and with repetitions, and the directory of the plan. So another run of the
plan that succeeds, by whatever package managers, on whatever host and with whatever outcomes,
reports the same steps and the same directory if the lookup had the same answer. -/
theorem report_of_provision_eq_ok (plan : Plan) (tooling : Tooling) (world : World σ) (state : σ)
    {report : Report}
    (succeeded : (world.run (plan.provision tooling).run state).value = .ok report) :
    ∃ found, (∀ program answer,
        .lookup program answer ∈ (world.run (plan.provision tooling).run state).calls ↔
          program = plan.buildSystem.name ∧ answer = found) ∧
      report.stepNames = plan.stepNames found ∧
      report.pathUpdate.directory = plan.binDirectory ∧
      ∀ (τ : Type) (other : World τ) (start : τ) (tools : Tooling) (another : Report),
        (other.run (plan.provision tools).run start).value = .ok another →
          .lookup plan.buildSystem.name found ∈
            (other.run (plan.provision tools).run start).calls →
          SameReport report another := by
  obtain ⟨found, looked, names, update⟩ :=
    plan.exists_answer_of_provision_eq_ok tooling world state succeeded
  refine ⟨found, looked, names, congrArg PathUpdate.directory update, ?_⟩
  intro τ other start tools another finished answered
  obtain ⟨given, lookedAgain, otherNames, otherUpdate⟩ :=
    plan.exists_answer_of_provision_eq_ok tools other start finished
  obtain ⟨-, same⟩ := (lookedAgain _ _).mp answered
  rw [← same] at otherNames
  exact ⟨names.trans otherNames.symm, update.trans otherUpdate.symm⟩

/-- A plan that asks for `wget` twice, and for a compiler that has to be installed. -/
def wgetTwice : Plan where
  compiler := .gcc5
  basePackages := [⟨"wget", []⟩, ⟨"wget", ["--HEAD"]⟩]
  buildSystem := ⟨"cmake", []⟩
  pythonFormula := ⟨"python3", []⟩
  pythonPackages := ["pytest"]
  binDirectory := [0x2F]

/-- Whether everything is installed, or `wget` has to be relinked and the compiler to be upgraded,
the steps are the same. -/
theorem report_of_provision_wgetTwice :
    let fresh : Script := ⟨[], []⟩
    let conflicting : Script :=
      ⟨[("brew list -1", .ok ⟨some 0, "gcc@5\n"⟩), ("brew install wget", .ok ⟨some 1, "linked"⟩),
        ("brew outdated gcc@5", .ok ⟨some 1, "gcc@5"⟩)], []⟩
    let run := Script.world.run (wgetTwice.provision .usual).run fresh
    let other := Script.world.run (wgetTwice.provision .usual).run conflicting
    ∃ report another, run.value = .ok report ∧ other.value = .ok another ∧
      .lookup "cmake" false ∈ run.calls ∧ .lookup "cmake" false ∈ other.calls ∧
      report.stepNames = wgetTwice.stepNames false ∧ SameReport report another := by
  intro fresh conflicting run other
  let expected : Report := ⟨["brew update", "ensure wget", "ensure wget", "ensure cmake",
    "ensure gcc@5", "install python3", "pip install pytest"].map (⟨·, .zero⟩), ⟨[0x2F]⟩⟩
  have succeeded : run.value = .ok expected := by decide +kernel
  have finished : other.value = .ok expected := by decide +kernel
  -- The names of the steps tell what the lookup answered.
  have notFound (found : Bool) (names : expected.stepNames = wgetTwice.stepNames found) :
      found = false := by
    cases found with
    | false => rfl
    | true => exact absurd names (by decide +kernel)
  obtain ⟨found, looked, names, -, same⟩ :=
    report_of_provision_eq_ok wgetTwice .usual Script.world fresh succeeded
  obtain ⟨given, lookedAgain, namesAgain, -⟩ :=
    exists_answer_of_provision_eq_ok wgetTwice .usual Script.world conflicting finished
  obtain rfl := notFound found names
  obtain rfl := notFound given namesAgain
  have answered := (lookedAgain "cmake" false).mpr ⟨rfl, rfl⟩
  exact ⟨expected, expected, succeeded, finished, (looked "cmake" false).mpr ⟨rfl, rfl⟩, answered,
    names, same Script Script.world conflicting .usual expected finished answered⟩

end Plan

end HostProvision
