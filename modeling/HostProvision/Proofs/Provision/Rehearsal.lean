import HostProvision.Host.World
import HostProvision.Proofs.Confinement
import HostProvision.Proofs.Homebrew.Listing
import HostProvision.Proofs.Notices
import HostProvision.Proofs.Provision.Failures

/-! # The dry run of a plan

A dry run shows the commands that a fresh host would be given.

* **A dry run is a run in which every command succeeds in silence**, `World.exists_rehearsed`, and
  the lines that it shows are those of the commands.
* **A fresh host leaves no choice**, `Phase.CarriedOut.lines_of_fresh`: if every command succeeds
  and no formula that is ensured is listed, then no phase fails, and the commands are those of
  `Phase.freshLines`.
* **The dry run predicts the run on a fresh host**, `Plan.rehearsal_predicts`: the same commands,
  the same steps and the same update of the search path. -/

namespace HostProvision

variable {σ τ α : Type}

/-! ## Dry runs -/

/-- A dry run ends as the procedure does for some answers. -/
theorem Procedure.exists_yields_of_rehearse {procedure : Procedure α} {calls : List Call}
    {value : α} (h : procedure.rehearse.Yields calls value) :
    ∃ answered, procedure.Yields answered value := by
  induction procedure generalizing calls with
  | done value =>
    obtain ⟨-, rfl⟩ := yields_done_iff.mp h
    exact ⟨[], .done _⟩
  | notify notice next ih =>
    obtain ⟨answered, yields⟩ := ih (yields_notify_iff.mp h)
    exact ⟨answered, .notify notice yields⟩
  | ask request next ih =>
    cases request with
    | command mode line =>
      obtain ⟨answered, yields⟩ := ih (.ok .success) (yields_notify_iff.mp h)
      exact ⟨_, .ask (.command mode line) (.ok .success) yields⟩
    | clock | lookup _ | append _ _ | openLogs _ =>
      obtain ⟨answer, rest, -, h⟩ := yields_ask_iff.mp h
      obtain ⟨answered, yields⟩ := ih answer h
      exact ⟨_, .ask _ answer yields⟩

/-- The command line of a call, if it is a command. -/
def Call.line? : Call → Option CommandLine
  | command _ line _ => some line
  | lookup .. => none

/-- A host that shows nothing, log messages apart, while it tells the time and looks programs up. -/
structure World.IsDiscreet (world : World σ) : Prop where
  /-- Nothing is shown while the time is told. -/
  clock : ∀ state, (world.handle .clock state).notices.filterMap Notice.diagnostics? = []
  /-- Nothing is shown while a program is looked up. -/
  lookup : ∀ program state,
    (world.handle (.lookup program) state).notices.filterMap Notice.diagnostics? = []

/-- Machines only log that they look a program up. -/
theorem Host.Machine.isDiscreet_world : Machine.world.IsDiscreet :=
  ⟨fun _ => rfl, fun _ _ => rfl⟩

/-- The octets by which a dry run shows a command. -/
def CommandLine.rehearsed (line : CommandLine) : Bytes :=
  Utf8.encode (Procedure.rehearsalLine line ++ "\n")

/-- The calls of a procedure when every command succeeds in silence, beside the calls that are left
of them in its dry run, and what that shows instead. -/
inductive Rehearsed : List Call → List Call → List Bytes → Prop where
  /-- Nothing is called. -/
  | nil : Rehearsed [] [] []
  /-- A command is shown instead of being run. -/
  | command (mode : Mode) (line : CommandLine) {calls left : List Call} {shown : List Bytes}
      (rest : Rehearsed calls left shown) :
      Rehearsed (.command mode line (.ok .success) :: calls) left (line.rehearsed :: shown)
  /-- A program is looked up all the same. -/
  | lookup (program : String) (found : Bool) {calls left : List Call} {shown : List Bytes}
      (rest : Rehearsed calls left shown) :
      Rehearsed (.lookup program found :: calls) (.lookup program found :: left) shown

namespace Rehearsed

variable {calls left : List Call} {shown : List Bytes}

/-- What is shown are the commands. -/
theorem shown_eq (h : Rehearsed calls left shown) :
    shown = (calls.filterMap Call.line?).map CommandLine.rehearsed := by
  induction h with
  | nil => rfl
  | command mode line _ ih => exact congrArg (line.rehearsed :: ·) ih
  | lookup program found _ ih => exact ih

/-- Every command succeeds in silence. -/
theorem eq_success (h : Rehearsed calls left shown) {mode : Mode} {line : CommandLine}
    {answer : Except IoError Reply} (mem : .command mode line answer ∈ calls) :
    answer = .ok .success := by
  induction h with
  | nil => cases mem
  | command mode line _ ih =>
    rcases List.mem_cons.mp mem with same | mem
    · cases same
      rfl
    · exact ih mem
  | lookup program found _ ih =>
    rcases List.mem_cons.mp mem with same | mem
    · cases same
    · exact ih mem

/-- Every command succeeds. -/
theorem succeeds (h : Rehearsed calls left shown) : ∀ call ∈ calls, call.Succeeds := by
  intro call mem
  cases call with
  | command mode line answer =>
    rw [h.eq_success mem]
    exact Call.succeeds_command_ok.mpr rfl
  | lookup program found => trivial

/-- The lookups are left, and nothing else. -/
theorem mem_left_iff (h : Rehearsed calls left shown) {call : Call} :
    call ∈ left ↔ call ∈ calls ∧ call.line? = none := by
  induction h with
  | nil => simp
  | command mode line _ ih =>
    rw [ih, List.mem_cons]
    constructor
    · exact fun ⟨mem, uncommanded⟩ => ⟨.inr mem, uncommanded⟩
    · rintro ⟨rfl | mem, uncommanded⟩
      · cases uncommanded
      · exact ⟨mem, uncommanded⟩
  | lookup program found _ ih =>
    rw [List.mem_cons, ih, List.mem_cons, or_and_right]
    refine or_congr ⟨?_, And.left⟩ Iff.rfl
    exact fun same => ⟨same, same ▸ rfl⟩

end Rehearsed

/-- Silence lists nothing. -/
theorem Homebrew.not_lists_empty (name : String) : ¬Lists "" name := by
  rintro ⟨solid, piece, mem, same⟩
  have empty : piece = [] := by simpa using mem
  rw [empty, Text.trim_nil] at same
  exact solid (String.toList_inj.mp same.symm)

/-- **A dry run is a run in which every command succeeds in silence**: its result is that of such a
run, and what it shows are the commands of that run. -/
theorem World.exists_rehearsed {world : World σ} (discreet : world.IsDiscreet)
    {procedure : Procedure α} (h : procedure.Within Notice.IsLog Request.IsCall) (state : σ) :
    ∃ calls, procedure.Yields calls (world.run procedure.rehearse state).value ∧
      Rehearsed calls (world.run procedure.rehearse state).calls
        (world.run procedure.rehearse state).diagnostics := by
  induction procedure generalizing state with
  | done value => exact ⟨[], .done value, .nil⟩
  | notify notice next ih =>
    obtain ⟨calls, yields, rehearsed⟩ := ih h.2 state
    refine ⟨calls, .notify notice yields, ?_⟩
    have untold : notice.diagnostics? = none := by
      cases notice with
      | diagnostics octets => exact h.1.elim
      | _ => rfl
    rw [Procedure.rehearse, Run.diagnostics, shown_run_notify, untold]
    exact rehearsed
  | ask request next ih =>
    cases request with
    | command mode line =>
      obtain ⟨calls, yields, rehearsed⟩ := ih (.ok .success) (h.2 _) state
      refine ⟨_, .ask (.command mode line) (.ok .success) yields, ?_⟩
      rw [Procedure.rehearse, Run.diagnostics, shown_run_notify]
      exact .command mode line rehearsed
    | lookup program =>
      obtain ⟨calls, yields, rehearsed⟩ := ih _ (h.2 _)
        (world.handle (.lookup program) state).state
      refine ⟨_, .ask (.lookup program) _ yields, ?_⟩
      rw [Procedure.rehearse, Run.diagnostics, shown_run_ask, calls_run_ask,
        discreet.lookup program state]
      exact .lookup program _ rehearsed
    | clock =>
      obtain ⟨calls, yields, rehearsed⟩ := ih _ (h.2 _) (world.handle .clock state).state
      refine ⟨_, .ask .clock _ yields, ?_⟩
      rw [Procedure.rehearse, Run.diagnostics, shown_run_ask, calls_run_ask,
        discreet.clock state]
      exact rehearsed
    | append file content => exact h.1.elim
    | openLogs directory => exact h.1.elim

/-! ## Fresh hosts -/

/-- Calls are answered as by a fresh host: every command succeeds, and no formula that phases ensure
is listed, whatever else is printed. -/
structure Fresh (brew : Homebrew) (phases : List Phase) (calls : List Call) : Prop where
  /-- Every command succeeds. -/
  succeeds : ∀ call ∈ calls, call.Succeeds
  /-- No formula that is ensured is listed. -/
  unlisted : ∀ formula listing, .ensure formula ∈ phases →
    .command .capture brew.listLine (.ok listing) ∈ calls →
      ¬Homebrew.Lists listing.stdout formula.name

namespace Phase

/-- The commands of a phase on a fresh host. -/
def freshLines (tooling : Tooling) : Phase → List CommandLine
  | update => [tooling.brew.updateLine]
  | ensure formula => [tooling.brew.listLine, tooling.brew.installLine formula]
  | lookup .. => []
  | install formula => [tooling.brew.installLine formula]
  | pipInstall package => [tooling.pip.installLine package]

variable {tooling : Tooling} {phase : Phase} {phases : List Phase} {calls : List Call}
  {ending : Option Failure}

/-- A required command that succeeds leaves no failure. -/
theorem Requires.eq_none_of_succeeds {line : CommandLine} (h : Requires line calls ending)
    (succeeds : ∀ call ∈ calls, call.Succeeds) :
    ending = none ∧ calls.filterMap Call.line? = [line] := by
  obtain ⟨answer, rfl, rfl⟩ := h
  obtain ⟨reply, rfl, succeeded⟩ := succeeds _ (List.mem_singleton_self _)
  rw [Step.checked_eq_ok_iff.mpr ⟨rfl, succeeded⟩]
  exact ⟨rfl, rfl⟩

/-- On a fresh host a phase does not fail, and its commands are fixed. -/
theorem lines_of_makes (h : phase.Makes tooling calls ending)
    (fresh : Fresh tooling.brew [phase] calls) :
    ending = none ∧ calls.filterMap Call.line? = phase.freshLines tooling := by
  cases phase with
  | update => exact Requires.eq_none_of_succeeds h fresh.succeeds
  | install formula => exact Requires.eq_none_of_succeeds h fresh.succeeds
  | pipInstall package => exact Requires.eq_none_of_succeeds h fresh.succeeds
  | lookup program found =>
    obtain ⟨rfl, rfl⟩ := h
    exact ⟨rfl, rfl⟩
  | ensure formula =>
    obtain ⟨result, yields, rfl⟩ := h
    have succeeds := fresh.succeeds
    have unlisted : ∀ listing, .command .capture tooling.brew.listLine (.ok listing) ∈ calls →
        formula.name ∉ Homebrew.listedNames listing.stdout := fun listing mem listed =>
      fresh.unlisted formula listing (List.mem_singleton_self _) mem
        (Homebrew.mem_listedNames_iff.mp listed)
    -- Every course but one needs a command to fail or the formula to be listed.
    cases Homebrew.ensureCourse_of_yields yields with
    | listingRefused refused =>
      obtain ⟨reply, rfl, succeeded⟩ := succeeds _ (List.mem_singleton_self _)
      rw [Step.checked_eq_ok_iff.mpr ⟨rfl, succeeded⟩] at refused
      cases refused
    | checkBroken _ listed | upToDate _ listed | upgraded _ listed | upgradeRefused _ listed =>
      exact absurd listed (unlisted _ (by simp))
    | installBroken => simp at succeeds
    | installed => exact ⟨rfl, rfl⟩
    | relinkBroken _ _ installFailed | relinked _ _ installFailed | exhausted _ _ installFailed =>
      simp [installFailed] at succeeds

/-- **A fresh host leaves no choice**: no phase fails, and the commands are fixed. -/
theorem CarriedOut.lines_of_fresh (h : CarriedOut tooling phases calls ending)
    (fresh : Fresh tooling.brew phases calls) :
    ending = none ∧ calls.filterMap Call.line? = phases.flatMap (freshLines tooling) := by
  induction h with
  | finished => exact ⟨rfl, rfl⟩
  | @continued phase phases first rest ending done others ih =>
    obtain ⟨-, lines⟩ := lines_of_makes done
      ⟨fun call mem => fresh.succeeds call (List.mem_append_left _ mem),
        fun formula listing hphase mem => fresh.unlisted formula listing
          (List.mem_cons.mpr (.inl (List.mem_singleton.mp hphase))) (List.mem_append_left _ mem)⟩
    obtain ⟨hending, later⟩ := ih
      ⟨fun call mem => fresh.succeeds call (List.mem_append_right _ mem),
        fun formula listing hphase mem => fresh.unlisted formula listing
          (List.mem_cons_of_mem _ hphase) (List.mem_append_right _ mem)⟩
    rw [List.filterMap_append, List.flatMap_cons, lines, later]
    exact ⟨hending, rfl⟩
  | @stopped phase phases calls failure failed =>
    obtain ⟨none, -⟩ := lines_of_makes failed
      ⟨fresh.succeeds, fun formula listing hphase mem => fresh.unlisted formula listing
        (List.mem_cons.mpr (.inl (List.mem_singleton.mp hphase))) mem⟩
    cases none

end Phase

/-! ## Plans -/

namespace Plan

/-- A run on a fresh host succeeds, with the commands and the report of the phases of the plan. -/
theorem reports_of_fresh {plan : Plan} {tooling : Tooling} {calls : List Call}
    {result : Except Failure Report} (h : (plan.provision tooling).Yields calls result)
    {found : Bool}
    (answered : ∀ answer, .lookup plan.buildSystem.name answer ∈ calls → answer = found)
    (fresh : Fresh tooling.brew (plan.phases found) calls) :
    ∃ report, result = .ok report ∧ plan.Reports (plan.phases found) report ∧
      calls.filterMap Call.line? = (plan.phases found).flatMap (Phase.freshLines tooling) := by
  obtain ⟨carriedOut, reports⟩ := carriedOut_of_answered h answered
  obtain ⟨succeeded, lines⟩ := carriedOut.lines_of_fresh fresh
  obtain ⟨report, value⟩ := exists_eq_ok_of_failure? succeeded
  exact ⟨report, value, reports report value, lines⟩

/-- **The dry run predicts the run on a fresh host.** On every host the dry run of a plan succeeds,
having run nothing and looked the build system up. Take any other host on which the lookup has the
same answer, every command succeeds, and no formula that is ensured is listed. There the run of the
plan succeeds as well, the lines that the dry run showed are its commands, one for one and in order,
and both report the same steps and the same update of the search path. -/
theorem rehearsal_predicts (plan : Plan) (tooling : Tooling) (dry : World τ)
    (discreet : dry.IsDiscreet) (state : τ) :
    let rehearsal := dry.run (plan.provision tooling).rehearse.run state
    ∃ (found : Bool) (report : Report),
      rehearsal.value = .ok report ∧
      .lookup plan.buildSystem.name found ∈ rehearsal.calls ∧
      (∀ mode line answer, .command mode line answer ∉ rehearsal.calls) ∧
      ∀ (σ : Type) (world : World σ) (start : σ),
        let run := world.run (plan.provision tooling).run start
        (∀ answer, .lookup plan.buildSystem.name answer ∈ run.calls → answer = found) →
        Fresh tooling.brew (plan.phases found) run.calls →
        ∃ other, run.value = .ok other ∧
          rehearsal.diagnostics = (run.calls.filterMap Call.line?).map (fun line =>
            Utf8.encode ("[dry-run] " ++ line.render ++ "\n")) ∧
          report.stepNames = other.stepNames ∧ report.pathUpdate = other.pathUpdate := by
  intro rehearsal
  obtain ⟨calls, yields, rehearsed⟩ : ∃ calls,
      (plan.provision tooling).Yields calls rehearsal.value ∧
        Rehearsed calls rehearsal.calls rehearsal.diagnostics :=
    World.exists_rehearsed discreet (onlyLogs_provision plan tooling) state
  have fresh (found : Bool) : Fresh tooling.brew (plan.phases found) calls :=
    ⟨rehearsed.succeeds, fun formula listing _ mem => by
      cases rehearsed.eq_success mem
      exact Homebrew.not_lists_empty formula.name⟩
  obtain ⟨found, carriedOut, reports⟩ := carriedOut_of_provision yields
  obtain ⟨succeeded, lines⟩ := carriedOut.lines_of_fresh (fresh found)
  have looked : .lookup plan.buildSystem.name found ∈ calls := by
    rw [succeeded] at carriedOut
    obtain ⟨legs, hphases, hlegs, hcalls⟩ := carriedOut.exists_legs_of_done
    rw [hcalls]
    exact lookup_mem_of_legs hphases hlegs
  obtain ⟨report, value⟩ := exists_eq_ok_of_failure? succeeded
  obtain ⟨names, update⟩ := reports report value
  refine ⟨found, report, value, rehearsed.mem_left_iff.mpr ⟨looked, rfl⟩, ?_, ?_⟩
  · intro mode line answer mem
    cases (rehearsed.mem_left_iff.mp mem).2
  · intro σ world start run answered fresh
    obtain ⟨other, hother, ⟨otherNames, otherUpdate⟩, otherLines⟩ :=
      reports_of_fresh (world.run_yields (plan.provision tooling).run start) answered fresh
    refine ⟨other, hother, ?_, names.trans otherNames.symm, update.trans otherUpdate.symm⟩
    rw [rehearsed.shown_eq, lines, ← otherLines]
    rfl

/-- A host without a build system, on which something else is installed than `wget`. -/
def freshScript : Script where
  replies := [("brew list -1", .ok ⟨some 0, "wget2\n"⟩)]
  onPath := []

/-- On that host both formulas are installed. -/
theorem calls_provision_freshScript :
    (Script.world.run (wget.provision .usual).run freshScript).calls =
      [.command .stream ⟨"brew", ["update"]⟩ (.ok .success),
        .command .capture ⟨"brew", ["list", "-1"]⟩ (.ok ⟨some 0, "wget2\n"⟩),
        .command .stream ⟨"brew", ["install", "wget"]⟩ (.ok .success),
        .lookup "cmake" false,
        .command .capture ⟨"brew", ["list", "-1"]⟩ (.ok ⟨some 0, "wget2\n"⟩),
        .command .stream ⟨"brew", ["install", "cmake"]⟩ (.ok .success),
        .command .stream ⟨"brew", ["install", "python3"]⟩ (.ok .success)] :=
  rfl

/-- That host is a fresh one for the plan. -/
theorem fresh_freshScript : Fresh Tooling.usual.brew (wget.phases false)
    (Script.world.run (wget.provision .usual).run freshScript).calls := by
  have listed : Homebrew.listedNames "wget2\n" = ["wget2"] := by decide +kernel
  constructor
  · rw [calls_provision_freshScript]
    simp [Call.Succeeds, Reply.succeeded, Reply.success]
  · intro formula listing ensured called
    rw [calls_provision_freshScript] at called
    have replied : listing = ⟨some 0, "wget2\n"⟩ := by
      simpa [Tooling.usual, Homebrew.listLine, Homebrew.line] using called
    have ensured : formula = ⟨"wget", []⟩ ∨ formula = ⟨"cmake", []⟩ := by
      simpa [phases, wget, Compiler.formula?] using ensured
    rw [← Homebrew.mem_listedNames_iff, replied, listed]
    rcases ensured with rfl | rfl <;> simp

/-- What the dry run shows on a host without anything is what is done on the fresh one. -/
theorem rehearsal_predicts_freshScript :
    let rehearsal := Script.world.run (wget.provision .usual).rehearse.run ⟨[], []⟩
    let run := Script.world.run (wget.provision .usual).run freshScript
    Script.world.IsDiscreet ∧
      (∀ answer, .lookup "cmake" answer ∈ run.calls → answer = false) ∧
      Fresh Tooling.usual.brew (wget.phases false) run.calls ∧
      ∃ report other, rehearsal.value = .ok report ∧ run.value = .ok other ∧
        rehearsal.diagnostics = (run.calls.filterMap Call.line?).map CommandLine.rehearsed ∧
        report.stepNames = other.stepNames := by
  intro rehearsal run
  have discreet : Script.world.IsDiscreet := ⟨fun _ => rfl, fun _ _ => rfl⟩
  have answered : ∀ answer, .lookup "cmake" answer ∈ run.calls → answer = false := by
    intro answer called
    rw [calls_provision_freshScript] at called
    simpa using called
  obtain ⟨found, report, value, looked, -, predicts⟩ :=
    rehearsal_predicts wget .usual Script.world discreet ⟨[], []⟩
  obtain rfl : found = false := by
    have calls : rehearsal.calls = [.lookup "cmake" false] := rfl
    change _ ∈ rehearsal.calls at looked
    rw [calls] at looked
    simpa [wget] using looked
  obtain ⟨other, hother, lines, names, -⟩ :=
    predicts Script Script.world freshScript answered fresh_freshScript
  exact ⟨discreet, answered, fresh_freshScript, report, other, value, hother, lines, names⟩

end Plan

end HostProvision
