import HostProvision.Proofs.Provision.Order
import HostProvision.Script

/-! # The failures of a provisioning run

Which commands may fail in a run that succeeds, and where the failure of any other run comes from.

* `Homebrew.Tolerated` lists the failures that are made up for, each by the very next call: the
  check for a newer version by the upgrade, and the installation of a formula that is ensured by
  the relinking of the conflicting formula.
* **No failure is swallowed**, `Plan.tolerated_of_provision_eq_ok`: a run that succeeds has no other
  failures.
* `Plan.Causes` lists the ways in which a run can fail, by its last calls.
* **Every failure has its cause**, `Plan.causes_of_provision_eq_error`: the failure of a run is that
  of its last call, and the exit code tells of it. -/

namespace HostProvision

variable {σ : Type}

namespace Call

/-- A call that did not fail: a command that replied with the exit code of success, or a lookup. -/
def Succeeds : Call → Prop
  | command _ _ answer => ∃ reply, answer = .ok reply ∧ reply.succeeded = true
  | lookup .. => True

/-- A call that was answered with the exit code of success. -/
@[simp] theorem succeeds_command_ok {mode : Mode} {line : CommandLine} {reply : Reply} :
    (command mode line (.ok reply)).Succeeds ↔ reply.succeeded = true := by
  simp [Succeeds]

/-- A command that could not be run did not succeed. -/
@[simp] theorem not_succeeds_command_error {mode : Mode} {line : CommandLine} {cause : IoError} :
    ¬(command mode line (.error cause)).Succeeds := by
  simp [Succeeds]

/-- The exit code in the answer to a call, if there is one. -/
def code? : Call → Option Int32
  | command _ _ (.ok reply) => reply.code
  | _ => none

end Call

/-! ## Successful runs -/

namespace Homebrew

/-- The failures that are made up for by the very next call. -/
inductive Tolerated (brew : Homebrew) (formula : Formula) : Call → Call → Prop where
  /-- A formula is not known to be up to date, and is upgraded. -/
  | check {check upgrade : Reply} (failed : check.succeeded = false)
      (passed : upgrade.succeeded = true) :
      Tolerated brew formula (.command .capture (brew.outdatedLine formula.name) (.ok check))
        (.command .stream (brew.upgradeLine formula) (.ok upgrade))
  /-- A formula cannot be installed, and the conflicting one is relinked. -/
  | installation {installation relinking : Reply} (failed : installation.succeeded = false)
      (passed : relinking.succeeded = true) :
      Tolerated brew formula (.command .stream (brew.installLine formula) (.ok installation))
        (.command .stream (brew.linkLine conflictingFormula) (.ok relinking))

/-- The commands whose failure is never made up for: updating, listing, upgrading and linking. -/
def Indispensable (brew : Homebrew) (line : CommandLine) : Prop :=
  line = brew.updateLine ∨ line = brew.listLine ∨ (∃ formula, line = brew.upgradeLine formula) ∨
    ∃ name, line = brew.linkLine name

variable {brew : Homebrew} {formula : Formula} {calls : List Call} {outcome : EnsureOutcome}

/-- A failure that is made up for is that of no indispensable command. -/
theorem Tolerated.not_indispensable {mode : Mode} {line : CommandLine}
    {answer : Except IoError Reply} {next : Call}
    (h : brew.Tolerated formula (.command mode line answer) next) : ¬brew.Indispensable line := by
  cases h with
  | check failed passed =>
    simp [Indispensable, updateLine, listLine, upgradeLine, linkLine, outdatedLine, Homebrew.line]
  | installation failed passed =>
    simp [Indispensable, updateLine, listLine, upgradeLine, linkLine, installLine, Homebrew.line]

/-- A failure that is made up for is one that a command replied with. -/
theorem Tolerated.exists_reply {call next : Call} (h : brew.Tolerated formula call next) :
    ∃ mode line reply, call = .command mode line (.ok reply) := by
  cases h with
  | check failed passed => exact ⟨_, _, _, rfl⟩
  | installation failed passed => exact ⟨_, _, _, rfl⟩

/-- What makes up for a failure succeeds. -/
theorem Tolerated.succeeds {call next : Call} (h : brew.Tolerated formula call next) :
    next.Succeeds := by
  cases h with
  | check failed passed => exact Call.succeeds_command_ok.mpr passed
  | installation failed passed => exact Call.succeeds_command_ok.mpr passed

/-- Ensuring a formula succeeds with no failure, or with one in its second call for which the third
makes up. -/
theorem EnsureCourse.tolerated (h : EnsureCourse brew formula calls (.ok outcome)) :
    (∀ call ∈ calls, call.Succeeds) ∨
      ∃ listing call next, calls = [listing, call, next] ∧ listing.Succeeds ∧
        brew.Tolerated formula call next := by
  cases h with
  | upToDate listingPassed listed checkPassed =>
    exact .inl (by simp [listingPassed, checkPassed])
  | upgraded listingPassed listed checkFailed upgradePassed =>
    exact .inr ⟨_, _, _, rfl, Call.succeeds_command_ok.mpr listingPassed,
      .check checkFailed upgradePassed⟩
  | installed listingPassed unlisted installPassed =>
    exact .inl (by simp [listingPassed, installPassed])
  | relinked listingPassed unlisted installFailed relinkPassed =>
    exact .inr ⟨_, _, _, rfl, Call.succeeds_command_ok.mpr listingPassed,
      .installation installFailed relinkPassed⟩

end Homebrew

/-- A required command that leaves no failure has succeeded. -/
theorem Phase.Requires.succeeds {line : CommandLine} {calls : List Call}
    (h : Phase.Requires line calls none) : ∀ call ∈ calls, call.Succeeds := by
  obtain ⟨answer, rfl, passed⟩ := h
  cases checked : Step.checked line answer with
  | ok reply =>
    obtain ⟨rfl, succeeded⟩ := Step.checked_eq_ok_iff.mp checked
    simp [succeeded]
  | error failure =>
    rw [checked] at passed
    cases passed

namespace Leg

variable {tooling : Tooling}

/-- **The failures of a leg that succeeds.** There is none unless it ensures a formula, and then at
most one, in the second of its three calls, for which the third makes up. -/
theorem tolerated {leg : Leg} (occurs : leg.Occurs tooling) (succeeded : leg.failure = none) :
    (∀ call ∈ leg.calls, call.Succeeds) ∨
      ∃ formula listing call next, leg.phase = .ensure formula ∧
        leg.calls = [listing, call, next] ∧ listing.Succeeds ∧
          tooling.brew.Tolerated formula call next := by
  obtain ⟨phase, calls, failure⟩ := leg
  cases succeeded
  -- Only ensuring a formula leaves replies unchecked; every other phase is a single call.
  cases phase with
  | update => exact .inl (Phase.Requires.succeeds occurs)
  | install formula => exact .inl (Phase.Requires.succeeds occurs)
  | pipInstall package => exact .inl (Phase.Requires.succeeds occurs)
  | lookup program found =>
    obtain ⟨hcalls, -⟩ := occurs
    left
    intro call mem
    rw [show calls = [.lookup program found] from hcalls, List.mem_singleton] at mem
    rw [mem]
    trivial
  | ensure formula =>
    obtain ⟨result, yields, passed⟩ := occurs
    cases result with
    | error failure => cases passed
    | ok outcome =>
      rcases (Homebrew.ensureCourse_of_yields yields).tolerated with
        all | ⟨listing, call, next, hcalls, hlisting, htolerated⟩
      · exact .inl all
      · exact .inr ⟨formula, listing, call, next, rfl, hcalls, hlisting, htolerated⟩

/-- If two of three calls succeed, a call that does not is the second. -/
theorem eq_second_of_not_succeeds {first second : List Call} {listing failing next call : Call}
    (h : first ++ call :: second = [listing, failing, next]) (failed : ¬call.Succeeds)
    (hlisting : listing.Succeeds) (hnext : next.Succeeds) :
    first = [listing] ∧ call = failing ∧ second = [next] := by
  match first with
  | [] =>
    cases h
    exact absurd hlisting failed
  | [_] =>
    cases h
    exact ⟨rfl, rfl, rfl⟩
  | [_, _] =>
    cases h
    exact absurd hnext failed
  | _ :: _ :: _ :: rest => simp at h

/-- A call of a run is a call of one of its legs. -/
theorem exists_of_flatMap_calls {legs : List Leg} {before after : List Call} {call : Call}
    (h : legs.flatMap Leg.calls = before ++ call :: after) :
    ∃ (done : List Leg) (leg : Leg) (others : List Leg) (first second : List Call),
      legs = done ++ leg :: others ∧ leg.calls = first ++ call :: second ∧
        before = done.flatMap Leg.calls ++ first ∧ after = second ++ others.flatMap Leg.calls := by
  induction legs generalizing before with
  | nil => simp at h
  | cons leg legs ih =>
    rw [List.flatMap_cons, List.append_eq_append_iff] at h
    -- Either the call is made after this leg, or it is made in it.
    rcases h with ⟨first, rfl, h⟩ | ⟨rest, hcalls, h⟩
    · obtain ⟨done, later, others, _, second, rfl, hcalls, rfl, rfl⟩ := ih h
      exact ⟨leg :: done, later, others, _, second, rfl, hcalls,
        (List.append_assoc ..).symm, rfl⟩
    · cases rest with
      | nil =>
        -- The leg ends right before the call, which a later leg makes.
        have h : legs.flatMap Leg.calls = [] ++ call :: after := h.symm
        obtain ⟨done, later, others, first, second, rfl, later_calls, none, rfl⟩ := ih h
        refine ⟨leg :: done, later, others, first, second, rfl, later_calls, ?_, rfl⟩
        rw [List.flatMap_cons, List.append_assoc, ← none, hcalls, List.append_nil,
          List.append_nil]
      | cons same second =>
        obtain ⟨rfl, rfl⟩ := List.cons.inj h
        exact ⟨[], leg, legs, before, second, rfl, hcalls, rfl, rfl⟩

/-- A call of a run is made up for: it is the second of three calls of a leg that ensures a formula,
and the third of them, which is the very next call of the run, succeeds in its place. -/
def MadeUpFor (brew : Homebrew) (legs : List Leg) (before : List Call) (call : Call)
    (after : List Call) : Prop :=
  ∃ (done : List Leg) (leg : Leg) (others : List Leg) (formula : Formula) (listing next : Call),
    legs = done ++ leg :: others ∧ leg.phase = .ensure formula ∧
    leg.calls = [listing, call, next] ∧ before = done.flatMap Leg.calls ++ [listing] ∧
    after = next :: others.flatMap Leg.calls ∧ next.Succeeds ∧ brew.Tolerated formula call next

/-- A call that is made up for is one of the failures that can be. -/
theorem MadeUpFor.exists_tolerated {brew : Homebrew} {legs : List Leg} {before after : List Call}
    {call : Call} (h : MadeUpFor brew legs before call after) :
    ∃ formula next, brew.Tolerated formula call next := by
  obtain ⟨_, _, _, formula, _, next, -, -, -, -, -, -, htolerated⟩ := h
  exact ⟨formula, next, htolerated⟩

/-- If every leg of a run succeeds, a call that does not is made up for. -/
theorem madeUpFor_of_not_succeeds {legs : List Leg} {before after : List Call} {call : Call}
    (hlegs : ∀ leg ∈ legs, leg.Occurs tooling ∧ leg.failure = none)
    (split : legs.flatMap Leg.calls = before ++ call :: after) (failed : ¬call.Succeeds) :
    MadeUpFor tooling.brew legs before call after := by
  obtain ⟨done, leg, others, first, second, rfl, hleg, rfl, rfl⟩ := exists_of_flatMap_calls split
  obtain ⟨occurs, passed⟩ := hlegs leg (by simp)
  rcases tolerated occurs passed with
    all | ⟨formula, listing, failing, next, hphase, three, hlisting, htolerated⟩
  · exact absurd (all call (by simp [hleg])) failed
  · obtain ⟨rfl, rfl, rfl⟩ :=
      eq_second_of_not_succeeds (hleg.symm.trans three) failed hlisting htolerated.succeeds
    exact ⟨done, leg, others, formula, listing, next, rfl, hphase, three, rfl, rfl,
      htolerated.succeeds, htolerated⟩

end Leg

/-- **No failure is swallowed.** In a run that succeeds, every command could be run, and each of
those that failed is the second of three calls that ensure a formula: either the check for a newer
version, and the very next call upgrades the formula, or its installation, and the very next call
relinks the conflicting formula. In particular nothing fails that is required, and no update,
listing, upgrade or link. -/
theorem Plan.tolerated_of_provision_eq_ok (world : World σ) (state : σ) (tooling : Tooling)
    (plan : Plan) {report : Report}
    (succeeded : (world.run (plan.provision tooling).run state).value = .ok report) :
    let calls := (world.run (plan.provision tooling).run state).calls
    ∃ (found : Bool) (legs : List Leg),
      plan.phases found = legs.map Leg.phase ∧
      (∀ leg ∈ legs, leg.Occurs tooling ∧ leg.failure = none) ∧
      calls = legs.flatMap Leg.calls ∧
      (∀ mode line cause, .command mode line (.error cause) ∉ calls) ∧
      (∀ before call after, calls = before ++ call :: after → ¬call.Succeeds →
        Leg.MadeUpFor tooling.brew legs before call after) ∧
      (∀ leg ∈ legs, (∀ formula, leg.phase ≠ .ensure formula) →
        ∀ call ∈ leg.calls, call.Succeeds) ∧
      ∀ mode line answer, .command mode line answer ∈ calls → tooling.brew.Indispensable line →
        (Call.command mode line answer).Succeeds := by
  intro calls
  obtain ⟨found, legs, hphases, hlegs, hcalls⟩ :=
    legs_of_provision_eq_ok world state tooling plan succeeded
  have made : ∀ before call after, calls = before ++ call :: after → ¬call.Succeeds →
      Leg.MadeUpFor tooling.brew legs before call after :=
    fun _ _ _ split => Leg.madeUpFor_of_not_succeeds hlegs (hcalls.symm.trans split)
  refine ⟨found, legs, hphases, hlegs, hcalls, ?_, made, ?_, ?_⟩
  · intro mode line cause mem
    obtain ⟨before, after, split⟩ := List.append_of_mem mem
    have failed : ¬(Call.command mode line (.error cause)).Succeeds :=
      Call.not_succeeds_command_error
    obtain ⟨formula, next, htolerated⟩ := (made before _ after split failed).exists_tolerated
    obtain ⟨_, _, _, same⟩ := htolerated.exists_reply
    cases same
  · intro leg mem other
    rcases Leg.tolerated (hlegs leg mem).1 (hlegs leg mem).2 with
      all | ⟨formula, _, _, _, hphase, -⟩
    · exact all
    · exact absurd hphase (other formula)
  · intro mode line answer mem indispensable
    by_contra failed
    obtain ⟨before, after, split⟩ := List.append_of_mem mem
    obtain ⟨formula, next, htolerated⟩ := (made before _ after split failed).exists_tolerated
    exact htolerated.not_indispensable indispensable

/-- A plan that ensures `wget` and nothing else but what every plan does. -/
def Plan.wget : Plan :=
  ⟨.clangDefault, [⟨"wget", []⟩], ⟨"cmake", []⟩, ⟨"python3", []⟩, [], []⟩

/-- The package managers by their usual names. -/
def Tooling.usual : Tooling :=
  ⟨⟨"brew"⟩, ⟨"pip3"⟩⟩

/-- A host on which `wget` cannot be installed, and relinking the conflicting formula ends with a
given exit code. -/
def Script.conflict (code : Option Int32) : Script where
  replies :=
    [("brew install wget", .ok ⟨some 3, ""⟩), ("brew link --overwrite gcc49", .ok ⟨code, ""⟩)]
  onPath := ["cmake"]

/-- A relinking that succeeds is the call right after the installation that does not. -/
theorem Plan.calls_provision_conflict_zero :
    (Script.world.run (wget.provision .usual).run (.conflict (some 0))).calls =
      [.command .stream ⟨"brew", ["update"]⟩ (.ok .success),
        .command .capture ⟨"brew", ["list", "-1"]⟩ (.ok .success)] ++
      .command .stream ⟨"brew", ["install", "wget"]⟩ (.ok ⟨some 3, ""⟩) ::
      [.command .stream ⟨"brew", ["link", "--overwrite", "gcc49"]⟩ (.ok .success),
        .lookup "cmake" true,
        .command .stream ⟨"brew", ["install", "python3"]⟩ (.ok .success)] :=
  rfl

/-- The failed installation of `wget` is made up for in a run that succeeds. -/
theorem Plan.madeUpFor_provision_conflict_zero :
    (∃ report, (Script.world.run (wget.provision .usual).run (.conflict (some 0))).value =
      .ok report) ∧
      ∃ found legs before after, wget.phases found = legs.map Leg.phase ∧
        Leg.MadeUpFor Tooling.usual.brew legs before
          (.command .stream ⟨"brew", ["install", "wget"]⟩ (.ok ⟨some 3, ""⟩)) after := by
  have succeeded : (Script.world.run (wget.provision .usual).run (.conflict (some 0))).value =
      .ok ⟨["brew update", "ensure wget", "install python3"].map (⟨·, .zero⟩), ⟨[]⟩⟩ := by
    decide +kernel
  refine ⟨⟨_, succeeded⟩, ?_⟩
  obtain ⟨found, legs, hphases, -, -, -, made, -, -⟩ :=
    tolerated_of_provision_eq_ok Script.world (.conflict (some 0)) .usual wget succeeded
  exact ⟨found, legs, _, _, hphases,
    made _ _ _ calls_provision_conflict_zero (by simp [Reply.succeeded])⟩

/-! ## Failed runs -/

namespace Plan

/-- The formulas that a plan ensures, the build system only if it is not found. -/
def Ensures (plan : Plan) (formula : Formula) : Prop :=
  formula ∈ plan.basePackages ∨ formula = plan.buildSystem ∨
    plan.compiler.formula? = some formula

/-- The commands of a plan that have to succeed. -/
inductive Required (plan : Plan) (tooling : Tooling) : Mode → CommandLine → Prop where
  /-- The package index is updated. -/
  | update : Required plan tooling .stream tooling.brew.updateLine
  /-- The installed formulas are listed. -/
  | list : Required plan tooling .capture tooling.brew.listLine
  /-- A formula is upgraded. -/
  | upgrade {formula : Formula} (ensured : plan.Ensures formula) :
      Required plan tooling .stream (tooling.brew.upgradeLine formula)
  /-- Python is installed. -/
  | install : Required plan tooling .stream (tooling.brew.installLine plan.pythonFormula)
  /-- A Python package is installed. -/
  | pipInstall {package : String} (mem : package ∈ plan.pythonPackages) :
      Required plan tooling .stream (tooling.pip.installLine package)

/-- The ways in which a run of a plan can fail: the calls before the last, the last, and the
failure. -/
inductive Causes (plan : Plan) (tooling : Tooling) : List Call → Call → Failure → Prop where
  /-- A command could not be run. -/
  | broken (before : List Call) (mode : Mode) (line : CommandLine) (cause : IoError) :
      Causes plan tooling before (.command mode line (.error cause)) (.io cause)
  /-- A command that has to succeed did not. -/
  | refused (before : List Call) {mode : Mode} {line : CommandLine} {reply : Reply}
      (required : plan.Required tooling mode line) (failed : reply.succeeded = false) :
      Causes plan tooling before (.command mode line (.ok reply))
        (.commandFailed line.render reply.code)
  /-- A formula was not installed, and the conflicting one was not relinked after that. -/
  | exhausted (before : List Call) {formula : Formula} {installation relinking : Reply}
      (ensured : plan.Ensures formula) (installFailed : installation.succeeded = false)
      (relinkFailed : relinking.succeeded = false) :
      Causes plan tooling
        (before ++ [.command .stream (tooling.brew.installLine formula) (.ok installation)])
        (.command .stream (tooling.brew.linkLine Homebrew.conflictingFormula) (.ok relinking))
        (.fallbackExhausted formula.name relinking.code)

variable {plan : Plan} {tooling : Tooling} {before : List Call} {last : Call} {failure : Failure}

/-- The exit code of a failure tells of the last call. -/
theorem Causes.exitCode_eq (h : plan.Causes tooling before last failure) :
    failure.exitCode = Failure.failingCode last.code? := by
  cases h with
  | broken => rfl
  | refused => rfl
  | exhausted => rfl

/-- The cause of a failure is a command, not a lookup. -/
theorem Causes.exists_command (h : plan.Causes tooling before last failure) :
    ∃ mode line answer, last = .command mode line answer := by
  cases h with
  | broken => exact ⟨_, _, _, rfl⟩
  | refused => exact ⟨_, _, _, rfl⟩
  | exhausted => exact ⟨_, _, _, rfl⟩

/-- A required command that is refused is the cause of the failure. -/
theorem causes_of_checked {mode : Mode} {line : CommandLine} {answer : Except IoError Reply}
    (required : plan.Required tooling mode line)
    (refused : Step.checked line answer = .error failure) (before : List Call) :
    plan.Causes tooling before (.command mode line answer) failure := by
  rcases Step.checked_eq_error_iff.mp refused with ⟨cause, rfl, rfl⟩ | ⟨reply, rfl, failed, rfl⟩
  · exact .broken before mode line cause
  · exact .refused before required failed

/-- A failed call at the end of some calls is the cause of their failure, whatever was called
before. -/
def CausesAtEnd (plan : Plan) (tooling : Tooling) (calls : List Call) (failure : Failure) : Prop :=
  ∃ (first : List Call) (last : Call), calls = first ++ [last] ∧
    ∀ before, plan.Causes tooling (before ++ first) last failure

/-- A required phase that fails does so by its one command. -/
theorem causesAtEnd_of_requires {line : CommandLine} {calls : List Call}
    (required : plan.Required tooling .stream line)
    (h : Phase.Requires line calls (some failure)) : plan.CausesAtEnd tooling calls failure := by
  obtain ⟨answer, rfl, failed⟩ := h
  cases checked : Step.checked line answer with
  | ok reply =>
    rw [checked] at failed
    cases failed
  | error refusal =>
    rw [checked] at failed
    cases failed
    exact ⟨[], _, rfl, fun _ => causes_of_checked required checked _⟩

/-- Ensuring a formula fails by the last command of its course. -/
theorem causesAtEnd_of_ensureCourse {formula : Formula} {calls : List Call}
    (ensured : plan.Ensures formula)
    (h : tooling.brew.EnsureCourse formula calls (.error failure)) :
    plan.CausesAtEnd tooling calls failure := by
  cases h with
  | listingRefused refused => exact ⟨[], _, rfl, fun _ => causes_of_checked .list refused _⟩
  | checkBroken _ _ cause => exact ⟨[_], _, rfl, fun _ => .broken _ _ _ cause⟩
  | upgradeRefused _ _ _ refused =>
    exact ⟨[_, _], _, rfl, fun _ => causes_of_checked (.upgrade ensured) refused _⟩
  | installBroken _ _ cause => exact ⟨[_], _, rfl, fun _ => .broken _ _ _ cause⟩
  | relinkBroken _ _ _ cause => exact ⟨[_, _], _, rfl, fun _ => .broken _ _ _ cause⟩
  | @exhausted listing installation relinking _ _ installFailed relinkFailed =>
    refine ⟨[_, _], _, rfl, fun before => ?_⟩
    -- The installation has to stand apart from the calls before it.
    have causes : plan.Causes tooling _ _ _ := .exhausted
      (before ++ [.command .capture tooling.brew.listLine (.ok listing)]) ensured installFailed
      relinkFailed
    rw [List.append_assoc] at causes
    exact causes

/-- The formulas that phases of a plan ensure are formulas that the plan ensures. -/
theorem ensures_of_mem_phases {found : Bool} {formula : Formula}
    (mem : .ensure formula ∈ plan.phases found) : plan.Ensures formula := by
  cases found with
  | true =>
    have needed : formula ∈ plan.basePackages ∨ plan.compiler.formula? = some formula := by
      simpa [phases] using mem
    exact needed.imp_right .inr
  | false => simpa [phases, Ensures, or_assoc] using mem

/-- **A leg that fails does so by its last command.** -/
theorem causesAtEnd_of_occurs {found : Bool} {leg : Leg} (mem : leg.phase ∈ plan.phases found)
    (occurs : leg.Occurs tooling) (failed : leg.failure = some failure) :
    plan.CausesAtEnd tooling leg.calls failure := by
  obtain ⟨phase, calls, ending⟩ := leg
  cases failed
  cases phase with
  | update => exact causesAtEnd_of_requires .update occurs
  | lookup program found => cases occurs.2
  | install formula =>
    obtain rfl := install_mem_phases_iff.mp mem
    exact causesAtEnd_of_requires .install occurs
  | pipInstall package =>
    exact causesAtEnd_of_requires (.pipInstall (pipInstall_mem_phases_iff.mp mem)) occurs
  | ensure formula =>
    obtain ⟨result, yields, failed⟩ := occurs
    cases result with
    | ok outcome => cases failed
    | error refusal =>
      cases failed
      exact causesAtEnd_of_ensureCourse (ensures_of_mem_phases mem)
        (Homebrew.ensureCourse_of_yields yields)

/-- **Every failure has its cause.** The last call of a run that fails is a command, and the failure
is its failure: that it could not be run, or else its exit code, under the name of the command, or
of the formula if the conflicting one was to be relinked. The exit code of the failure is that of
the last reply if that has one other than zero, and otherwise 1. -/
theorem causes_of_provision_eq_error (world : World σ) (state : σ) (tooling : Tooling)
    (plan : Plan) {failure : Failure}
    (failed : (world.run (plan.provision tooling).run state).value = .error failure) :
    ∃ (before : List Call) (mode : Mode) (line : CommandLine) (answer : Except IoError Reply),
      let last := Call.command mode line answer
      (world.run (plan.provision tooling).run state).calls = before ++ [last] ∧
      plan.Causes tooling before last failure ∧
      (∀ code, last.code? = some code → code ≠ 0 → failure.exitCode = code) ∧
      ((∀ code, last.code? = some code → code = 0) → failure.exitCode = 1) ∧
      failure.exitCode ≠ 0 := by
  obtain ⟨found, done, leg, skipped, hphases, -, occurs, hfailure, hcalls⟩ :=
    legs_of_provision_eq_error world state tooling plan failed
  have mem : leg.phase ∈ plan.phases found := by simp [hphases]
  -- The last call of the run is that of its last leg, and the calls of the others stand before.
  obtain ⟨first, last, hleg, causes⟩ := causesAtEnd_of_occurs mem occurs hfailure
  rw [hleg, ← List.append_assoc] at hcalls
  obtain ⟨mode, line, answer, rfl⟩ := (causes (done.flatMap Leg.calls)).exists_command
  have exitCode := (causes (done.flatMap Leg.calls)).exitCode_eq
  refine ⟨_, mode, line, answer, hcalls, causes _, ?_, ?_, failure.exitCode_ne_zero⟩
  · intro code replied nonzero
    rw [exitCode, replied, Failure.failingCode, if_neg nonzero]
  · intro zero
    rw [exitCode]
    cases replied : (Call.command mode line answer).code? with
    | none => rfl
    | some code => rw [zero code replied, Failure.failingCode, if_pos rfl, Failure.genericExitCode]

/-- Relinking that ends with the exit code 7 is the cause of a failure with that exit code. -/
theorem causes_provision_conflict_seven :
    (Script.world.run (wget.provision .usual).run (.conflict (some 7))).value =
        .error (.fallbackExhausted "wget" (some 7)) ∧
      ∃ before last, (Script.world.run (wget.provision .usual).run (.conflict (some 7))).calls =
          before ++ [last] ∧
        wget.Causes .usual before last (.fallbackExhausted "wget" (some 7)) := by
  have failed : (Script.world.run (wget.provision .usual).run (.conflict (some 7))).value =
      .error (.fallbackExhausted "wget" (some 7)) := by decide +kernel
  obtain ⟨before, mode, line, answer, hcalls, causes, -⟩ :=
    causes_of_provision_eq_error Script.world (.conflict (some 7)) .usual wget failed
  exact ⟨failed, before, _, hcalls, causes⟩

end Plan

end HostProvision
