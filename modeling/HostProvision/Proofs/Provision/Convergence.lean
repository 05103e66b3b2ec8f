import HostProvision.Proofs.Provision.Inventory

/-! # Provisioning a host again

What a second run of a plan does on a host that keeps an inventory.

* **A first run settles its formulas**, `Plan.settled_of_legs`: every formula that it ensured is
  installed after it, and there is no newer version, unless the conflicting formula was relinked.
* **A settled formula is left alone**, `Homebrew.EnsureCourse.eq_upToDate_of_settled`: ensuring it
  takes two questions and changes nothing.
* **The second run only asks**, `Plan.upToDate_of_provision_again`: whatever fails in it, every
  formula that it ensures is found up to date, and nothing is installed but Python and its
  packages. -/

namespace HostProvision

variable {σ : Type}

/-- The answer to a lookup, if a call is one. -/
def Call.found? : Call → Option Bool
  | lookup _ found => some found
  | command .. => none

/-! ## Ensuring a formula on a host that keeps an inventory -/

namespace Homebrew

variable {brew : Homebrew} {formula : Formula} {calls : List Call} {before after : Inventory}

/-- The calls by which a settled formula is found up to date. -/
def OnlyAsks (brew : Homebrew) (name : String) (calls : List Call) : Prop :=
  ∃ listing check, calls =
    [.command .capture brew.listLine listing, .command .capture (brew.outdatedLine name) check]

/-- **A formula that was ensured is settled**, unless the conflicting formula was relinked. -/
theorem EnsureCourse.settled {outcome : EnsureOutcome}
    (h : EnsureCourse brew formula calls (.ok outcome))
    (unlinked : ∀ mode name answer, .command mode (brew.linkLine name) answer ∉ calls)
    (follows : Inventory.Follows brew before calls after) : after.Settled formula.name := by
  cases h with
  | upToDate listingPassed listed checkPassed =>
    simp only [Inventory.follows_cons_iff, Inventory.follows_nil_iff] at follows
    obtain ⟨first, hlisting, second, hcheck, rfl⟩ := follows
    have installed : formula.name ∈ before.installed := hlisting.mem_listedNames_iff.mp listed
    have current : formula.name ∉ first.outdated :=
      (hcheck.check _ _ _ rfl).mp (Call.succeeds_command_ok.mpr checkPassed)
    exact hcheck.settled ⟨hlisting.mem_installed installed, current⟩
  | upgraded listingPassed listed checkFailed upgradePassed =>
    simp only [Inventory.follows_cons_iff, Inventory.follows_nil_iff] at follows
    obtain ⟨first, hlisting, second, hcheck, third, hupgrade, rfl⟩ := follows
    have installed : formula.name ∈ before.installed := hlisting.mem_listedNames_iff.mp listed
    exact hupgrade.settled_of_upgrades
      ⟨.stream, formula.extraArgs, _, rfl, Call.succeeds_command_ok.mpr upgradePassed⟩
      (hcheck.mem_installed (hlisting.mem_installed installed))
  | installed listingPassed unlisted installPassed =>
    simp only [Inventory.follows_cons_iff, Inventory.follows_nil_iff] at follows
    obtain ⟨first, -, second, hinstall, rfl⟩ := follows
    exact hinstall.settled_of_installs
      ⟨.stream, formula.extraArgs, _, rfl, Call.succeeds_command_ok.mpr installPassed⟩
  | @relinked listing installation relinking =>
    exact absurd (by simp) (unlinked .stream conflictingFormula (.ok relinking))

/-- **A settled formula is found up to date**, by the listing and the check for a newer version. -/
theorem EnsureCourse.eq_upToDate_of_settled {result : Except Failure EnsureOutcome}
    (h : EnsureCourse brew formula calls result) (settled : before.Settled formula.name)
    (follows : Inventory.Follows brew before calls after) :
    result = .ok .upToDate ∧ brew.OnlyAsks formula.name calls := by
  obtain ⟨installed, current⟩ := settled
  -- Every other course needs the listing to fail, the formula not to be listed or the check not to
  -- succeed.
  cases h with
  | listingRefused refused =>
    obtain ⟨first, hlisting, -⟩ := Inventory.follows_cons_iff.mp follows
    obtain ⟨names, rfl, -⟩ := hlisting.list _ rfl
    have passed : (⟨some 0, printed names⟩ : Reply).check brew.listLine =
        .ok ⟨some 0, printed names⟩ := Reply.check_of_succeeded brew.listLine rfl
    rw [Step.checked, passed] at refused
    cases refused
  | upToDate => exact ⟨rfl, _, _, rfl⟩
  | checkBroken =>
    obtain ⟨first, hlisting, rest⟩ := Inventory.follows_cons_iff.mp follows
    obtain ⟨second, hcheck, -⟩ := Inventory.follows_cons_iff.mp rest
    have passed := (hcheck.check _ _ _ rfl).mpr (hlisting.notMem_outdated current)
    exact absurd passed Call.not_succeeds_command_error
  | upgraded _ _ checkFailed _ | upgradeRefused _ _ checkFailed _ =>
    obtain ⟨first, hlisting, rest⟩ := Inventory.follows_cons_iff.mp follows
    obtain ⟨second, hcheck, -⟩ := Inventory.follows_cons_iff.mp rest
    have passed := (hcheck.check _ _ _ rfl).mpr (hlisting.notMem_outdated current)
    rw [Call.succeeds_command_ok, checkFailed] at passed
    cases passed
  | installBroken _ unlisted | installed _ unlisted | relinkBroken _ unlisted
  | relinked _ unlisted | exhausted _ unlisted =>
    obtain ⟨first, hlisting, -⟩ := Inventory.follows_cons_iff.mp follows
    exact absurd (hlisting.mem_listedNames_iff.mpr installed) unlisted

end Homebrew

/-! ## The legs of a run -/

namespace Leg

variable {brew : Homebrew} {legs : List Leg} {leg : Leg} {before after : Inventory}

/-- The calls of a leg stand between two inventories of the run. -/
theorem exists_follows_of_mem (mem : leg ∈ legs)
    (follows : Inventory.Follows brew before (legs.flatMap Leg.calls) after) :
    ∃ (earlier later : List Call) (start stop : Inventory),
      legs.flatMap Leg.calls = earlier ++ leg.calls ++ later ∧
      Inventory.Follows brew before earlier start ∧
      Inventory.Follows brew start leg.calls stop ∧ Inventory.Follows brew stop later after := by
  obtain ⟨done, others, rfl⟩ := List.append_of_mem mem
  have calls : (done ++ leg :: others).flatMap Leg.calls =
      done.flatMap Leg.calls ++ leg.calls ++ others.flatMap Leg.calls := by simp
  rw [calls, Inventory.follows_append_iff] at follows
  obtain ⟨stop, follows, hlater⟩ := follows
  obtain ⟨start, hearlier, hleg⟩ := Inventory.follows_append_iff.mp follows
  exact ⟨_, _, start, stop, calls, hearlier, hleg, hlater⟩

end Leg

namespace Plan

variable {plan : Plan} {tooling : Tooling} {legs : List Leg} {before after : Inventory}
  {formula : Formula}

/-- **A run settles the formulas that it ensures**, unless it relinks. -/
theorem settled_of_legs (hlegs : ∀ leg ∈ legs, leg.Occurs tooling ∧ leg.failure = none)
    (unlinked : ∀ mode name answer,
      .command mode (tooling.brew.linkLine name) answer ∉ legs.flatMap Leg.calls)
    (follows : Inventory.Follows tooling.brew before (legs.flatMap Leg.calls) after)
    (mem : .ensure formula ∈ legs.map Leg.phase) : after.Settled formula.name := by
  obtain ⟨⟨phase, calls, failure⟩, hleg, rfl⟩ := List.mem_map.mp mem
  obtain ⟨⟨result, yields, hfailure⟩, succeeded⟩ := hlegs _ hleg
  obtain ⟨earlier, later, start, stop, -, -, hcalls, hlater⟩ :=
    Leg.exists_follows_of_mem hleg follows
  cases result with
  | error refusal =>
    cases hfailure.symm.trans succeeded
  | ok outcome =>
    have course := Homebrew.ensureCourse_of_yields yields
    exact hlater.settled (course.settled
      (fun mode name answer called =>
        unlinked mode name answer (List.mem_flatMap.mpr ⟨_, hleg, called⟩))
      hcalls)

/-- A formula that is settled before a run is found up to date by every leg that ensures it. -/
theorem upToDate_of_settled {leg : Leg} (hleg : leg ∈ legs) (occurs : leg.Occurs tooling)
    (phase : leg.phase = .ensure formula)
    (follows : Inventory.Follows tooling.brew before (legs.flatMap Leg.calls) after)
    (settled : before.Settled formula.name) :
    tooling.brew.OnlyAsks formula.name leg.calls ∧
      ∀ result, (tooling.brew.ensure formula).Yields leg.calls result →
        result = .ok .upToDate := by
  obtain ⟨earlier, later, start, stop, -, hearlier, hcalls, -⟩ :=
    Leg.exists_follows_of_mem hleg follows
  have settled : start.Settled formula.name := hearlier.settled settled
  rw [Leg.Occurs, phase] at occurs
  obtain ⟨result, yields, -⟩ := occurs
  refine ⟨((Homebrew.ensureCourse_of_yields yields).eq_upToDate_of_settled settled hcalls).2, ?_⟩
  intro result yields
  exact ((Homebrew.ensureCourse_of_yields yields).eq_upToDate_of_settled settled hcalls).1

/-- The command lines of a run that installs nothing but Python and its packages. -/
def Upkeep (plan : Plan) (tooling : Tooling) (line : CommandLine) : Prop :=
  line = tooling.brew.updateLine ∨ line = tooling.brew.listLine ∨
    (∃ name, line = tooling.brew.outdatedLine name) ∨
    line = tooling.brew.installLine plan.pythonFormula ∨
    ∃ package ∈ plan.pythonPackages, line = tooling.pip.installLine package

/-- Nothing is upgraded or linked for upkeep, and nothing is installed but Python and its
packages. -/
theorem Upkeep.spec {line : CommandLine} (h : plan.Upkeep tooling line) :
    (∀ formula, line ≠ tooling.brew.upgradeLine formula) ∧
      (∀ name, line ≠ tooling.brew.linkLine name) ∧
      ∀ formula, line = tooling.brew.installLine formula →
        formula = plan.pythonFormula ∨
          ∃ package ∈ plan.pythonPackages, line = tooling.pip.installLine package := by
  rcases h with rfl | rfl | ⟨name, rfl⟩ | rfl | ⟨package, mem, rfl⟩
  · simp [Homebrew.updateLine, Homebrew.upgradeLine, Homebrew.linkLine, Homebrew.installLine,
      Homebrew.line]
  · simp [Homebrew.listLine, Homebrew.upgradeLine, Homebrew.linkLine, Homebrew.installLine,
      Homebrew.line]
  · simp [Homebrew.outdatedLine, Homebrew.upgradeLine, Homebrew.linkLine, Homebrew.installLine,
      Homebrew.line]
  · refine ⟨?_, ?_, fun formula same => .inl ?_⟩
    · simp [Homebrew.upgradeLine, Homebrew.installLine, Homebrew.line]
    · simp [Homebrew.linkLine, Homebrew.installLine, Homebrew.line]
    · have same : plan.pythonFormula.installArgs = formula.installArgs := by
        simpa [Homebrew.installLine, Homebrew.line] using same
      exact (Formula.installArgs_inj.mp same).symm
  · refine ⟨?_, ?_, fun formula _ => .inr ⟨package, mem, rfl⟩⟩
    · simp [Pip.installLine, Homebrew.upgradeLine, Homebrew.line]
    · simp [Pip.installLine, Homebrew.linkLine, Homebrew.line]

/-- A leg is for upkeep if it only asks for what it ensures. -/
theorem upkeep_of_occurs {found : Bool} {leg : Leg} (mem : leg.phase ∈ plan.phases found)
    (occurs : leg.Occurs tooling)
    (asks : ∀ formula, leg.phase = .ensure formula →
      tooling.brew.OnlyAsks formula.name leg.calls)
    {mode : Mode} {line : CommandLine} {answer : Except IoError Reply}
    (called : .command mode line answer ∈ leg.calls) : plan.Upkeep tooling line := by
  obtain ⟨phase, calls, failure⟩ := leg
  cases phase with
  | update =>
    obtain ⟨reply, rfl, -⟩ := occurs
    cases List.mem_singleton.mp called
    exact .inl rfl
  | ensure formula =>
    obtain ⟨listing, check, rfl⟩ := asks formula rfl
    rcases List.mem_pair.mp called with called | called
    · cases called
      exact .inr (.inl rfl)
    · cases called
      exact .inr (.inr (.inl ⟨formula.name, rfl⟩))
  | lookup program found =>
    obtain ⟨rfl, -⟩ := occurs
    cases List.mem_singleton.mp called
  | install formula =>
    obtain ⟨reply, rfl, -⟩ := occurs
    cases List.mem_singleton.mp called
    obtain rfl := install_mem_phases_iff.mp mem
    exact .inr (.inr (.inr (.inl rfl)))
  | pipInstall package =>
    obtain ⟨reply, rfl, -⟩ := occurs
    cases List.mem_singleton.mp called
    exact .inr (.inr (.inr (.inr ⟨package, pipInstall_mem_phases_iff.mp mem, rfl⟩)))

/-- **The second run only asks.** Take any host that keeps an inventory, and a run that succeeds and
links nothing. If the plan is run again in the state after it, and the build system is found again
or not found again, then every formula that is ensured is found up to date by two questions. Nothing
is upgraded or linked, and nothing is installed but Python and its packages. All this holds up to
wherever the second run comes. -/
theorem upToDate_of_provision_again (plan : Plan) (tooling : Tooling) (world : World σ)
    (inventory : σ → Inventory) (keeps : world.Keeps tooling.brew inventory) (state : σ)
    {report : Report}
    (succeeded : (world.run (plan.provision tooling).run state).value = .ok report)
    (unlinked : ∀ mode name answer, .command mode (tooling.brew.linkLine name) answer ∉
      (world.run (plan.provision tooling).run state).calls)
    (sameAnswer : ∀ found again,
      .lookup plan.buildSystem.name found ∈
        (world.run (plan.provision tooling).run state).calls →
      .lookup plan.buildSystem.name again ∈
        (world.run (plan.provision tooling).run
          (world.run (plan.provision tooling).run state).state).calls →
      found = again) :
    let first := world.run (plan.provision tooling).run state
    let second := world.run (plan.provision tooling).run first.state
    ∃ (found : Bool) (legs : List Leg) (skipped : List Phase),
      plan.phases found = legs.map Leg.phase ++ skipped ∧
      (∀ leg ∈ legs, leg.Occurs tooling) ∧
      second.calls = legs.flatMap Leg.calls ∧
      (∀ leg ∈ legs, ∀ formula, leg.phase = .ensure formula →
        tooling.brew.OnlyAsks formula.name leg.calls ∧
        ∀ result, (tooling.brew.ensure formula).Yields leg.calls result →
          result = .ok .upToDate) ∧
      ∀ mode line answer, .command mode line answer ∈ second.calls →
        (∀ formula, line ≠ tooling.brew.upgradeLine formula) ∧
        (∀ name, line ≠ tooling.brew.linkLine name) ∧
        ∀ formula, line = tooling.brew.installLine formula →
          formula = plan.pythonFormula ∨
            ∃ package ∈ plan.pythonPackages, line = tooling.pip.installLine package := by
  intro first second
  obtain ⟨found, legs, hphases, hlegs, hcalls⟩ :=
    legs_of_provision_eq_ok world state tooling plan succeeded
  have looked : .lookup plan.buildSystem.name found ∈ first.calls := by
    rw [hcalls]
    exact lookup_mem_of_legs hphases hlegs
  -- The second run follows the same phases, as the lookup has the same answer if it is reached.
  obtain ⟨carriedOut, -⟩ := carriedOut_of_answered
    (world.run_yields (plan.provision tooling).run first.state)
    fun again called => (sameAnswer found again looked called).symm
  obtain ⟨reached, skipped, hreached, occurs, hagain⟩ := carriedOut.exists_legs
  have before := keeps.follows (plan.provision tooling).run state
  have after := keeps.follows (plan.provision tooling).run first.state
  rw [hcalls] at before unlinked
  rw [hagain] at after
  have asks : ∀ leg ∈ reached, ∀ formula, leg.phase = .ensure formula →
      tooling.brew.OnlyAsks formula.name leg.calls ∧
        ∀ result, (tooling.brew.ensure formula).Yields leg.calls result →
          result = .ok .upToDate := by
    intro leg hleg formula phase
    have ensured : .ensure formula ∈ legs.map Leg.phase := by
      rw [← hphases, hreached, ← phase]
      exact List.mem_append_left _ (List.mem_map_of_mem hleg)
    exact upToDate_of_settled hleg (occurs leg hleg) phase after
      (settled_of_legs hlegs unlinked before ensured)
  refine ⟨found, reached, skipped, hreached, occurs, hagain, asks, ?_⟩
  intro mode line answer called
  rw [hagain] at called
  obtain ⟨leg, hleg, called⟩ := List.mem_flatMap.mp called
  have mem : leg.phase ∈ plan.phases found := by
    rw [hreached]
    exact List.mem_append_left _ (List.mem_map_of_mem hleg)
  exact (upkeep_of_occurs mem (occurs leg hleg)
    (fun formula phase => (asks leg hleg formula phase).1) called).spec

/-- A host on which `wget` is outdated, and nothing else is installed. -/
def outdatedWget : Cellar :=
  ⟨["wget"], ["wget"], by decide +kernel⟩

/-- The first run upgrades `wget` and installs the build system. -/
theorem calls_provision_outdatedWget :
    ((Cellar.world Tooling.usual.brew).run (wget.provision .usual).run outdatedWget).calls =
      [.command .stream ⟨"brew", ["update"]⟩ (.ok .success),
        .command .capture ⟨"brew", ["list", "-1"]⟩ (.ok ⟨some 0, "wget\n"⟩),
        .command .capture ⟨"brew", ["outdated", "wget"]⟩ (.ok ⟨some 1, ""⟩),
        .command .stream ⟨"brew", ["upgrade", "wget"]⟩ (.ok .success),
        .lookup "cmake" false,
        .command .capture ⟨"brew", ["list", "-1"]⟩ (.ok ⟨some 0, "wget\n"⟩),
        .command .stream ⟨"brew", ["install", "cmake"]⟩ (.ok .success),
        .command .stream ⟨"brew", ["install", "python3"]⟩ (.ok .success)] :=
  rfl

/-- The second run finds both formulas up to date, and upgrades nothing. -/
theorem upToDate_of_provision_outdatedWget :
    let world := Cellar.world Tooling.usual.brew
    let first := world.run (wget.provision .usual).run outdatedWget
    let second := world.run (wget.provision .usual).run first.state
    (∃ report, first.value = .ok report) ∧
      (∀ mode name answer,
        .command mode (Tooling.usual.brew.linkLine name) answer ∉ first.calls) ∧
      (∀ found again, .lookup "cmake" found ∈ first.calls → .lookup "cmake" again ∈ second.calls →
        found = again) ∧
      ∃ (found : Bool) (legs : List Leg) (skipped : List Phase),
        wget.phases found = legs.map Leg.phase ++ skipped ∧
        second.calls = legs.flatMap Leg.calls ∧
        ∀ leg ∈ legs, ∀ formula, leg.phase = .ensure formula →
          Tooling.usual.brew.OnlyAsks formula.name leg.calls := by
  intro world first second
  have succeeded : first.value =
      .ok ⟨["brew update", "ensure wget", "ensure cmake", "install python3"].map (⟨·, .zero⟩),
        ⟨[]⟩⟩ := by
    decide +kernel
  have unlinked : ∀ mode name answer,
      .command mode (Tooling.usual.brew.linkLine name) answer ∉ first.calls := by
    intro mode name answer
    rw [calls_provision_outdatedWget]
    simp [Tooling.usual, Homebrew.linkLine, Homebrew.line]
  have sameAnswer : ∀ found again, .lookup "cmake" found ∈ first.calls →
      .lookup "cmake" again ∈ second.calls → found = again := by
    intro found again hfound hagain
    have before : first.calls.filterMap Call.found? = [false] := by decide +kernel
    have after : second.calls.filterMap Call.found? = [false] := by decide +kernel
    have hfound : found ∈ first.calls.filterMap Call.found? :=
      List.mem_filterMap.mpr ⟨_, hfound, rfl⟩
    have hagain : again ∈ second.calls.filterMap Call.found? :=
      List.mem_filterMap.mpr ⟨_, hagain, rfl⟩
    rw [before, List.mem_singleton] at hfound
    rw [after, List.mem_singleton] at hagain
    rw [hfound, hagain]
  obtain ⟨found, legs, skipped, hphases, -, hcalls, asks, -⟩ :=
    upToDate_of_provision_again wget .usual world Cellar.inventory (Cellar.keeps _) outdatedWget
      succeeded unlinked sameAnswer
  exact ⟨⟨_, succeeded⟩, unlinked, sameAnswer, found, legs, skipped, hphases, hcalls,
    fun leg mem formula phase => (asks leg mem formula phase).1⟩

end Plan

end HostProvision
