import HostProvision.Proofs.Ensure.Course
import HostProvision.Proofs.Homebrew.Listing

/-! # What ensuring a formula does

Ensuring a formula as it is seen from outside: which commands are run, when each of them is, and
what the result says of the last one. None of this speaks of how the next command is decided on.

* `Homebrew.Settles` relates the last call to the result, and `Homebrew.EnsureCourse.settles` says
  that it settles it, after calls that all had a reply.
* `Homebrew.EnsureContract` is the whole of what a caller may rely on.
* **Ensuring a formula keeps the contract**, `Homebrew.ensure_keeps_contract`, on every host,
  whatever its commands reply and whether or not they can be run. -/

namespace HostProvision

variable {σ : Type}

namespace Call

/-- A call that runs a command line, in whatever mode. -/
def Runs (line : CommandLine) (call : Call) : Prop :=
  ∃ mode answer, call = .command mode line answer

@[simp] theorem runs_command {line other : CommandLine} {mode : Mode}
    {answer : Except IoError Reply} : (command mode other answer).Runs line ↔ other = line := by
  simp [Runs]

end Call

namespace Homebrew

/-! ## The contract -/

/-- A command is run in a mode, whatever its answer. -/
def Issued (calls : List Call) (mode : Mode) (line : CommandLine) : Prop :=
  ∃ answer, .command mode line answer ∈ calls

/-- A command is run in a mode, and replies without the exit code of success. -/
def RepliesBadly (calls : List Call) (mode : Mode) (line : CommandLine) : Prop :=
  ∃ reply : Reply, .command mode line (.ok reply) ∈ calls ∧ reply.code ≠ some 0

/-- The listing is captured with the exit code of success, and a property holds of what it says. -/
def ListingHad (brew : Homebrew) (calls : List Call) (holds : String → Prop) : Prop :=
  ∃ listing : Reply, .command .capture brew.listLine (.ok listing) ∈ calls ∧
    listing.code = some 0 ∧ holds listing.stdout

/-- The last call is a command in a mode, and replies with the exit code of success. -/
def EndsWell (calls : List Call) (mode : Mode) (line : CommandLine) : Prop :=
  ∃ reply : Reply, calls.getLast? = some (.command mode line (.ok reply)) ∧ reply.code = some 0

/-- The mode in which the last command before an outcome is run. -/
def lastMode : EnsureOutcome → Mode
  | .upToDate => .capture
  | .upgraded | .installed | .relinked => .stream

/-- The last command before an outcome. -/
def lastLine (brew : Homebrew) (formula : Formula) : EnsureOutcome → CommandLine
  | .upToDate => brew.outdatedLine formula.name
  | .upgraded => brew.upgradeLine formula
  | .installed => brew.installLine formula
  | .relinked => brew.linkLine conflictingFormula

/-- What a caller may rely on who has a formula ensured. -/
structure EnsureContract (brew : Homebrew) (formula : Formula) (calls : List Call)
    (result : Except Failure EnsureOutcome) : Prop where
  /-- There are one to three calls, the first of which captures the listing. -/
  begins : ∃ listing rest,
    calls = .command .capture brew.listLine listing :: rest ∧ rest.length ≤ 2
  /-- No command line is run twice. -/
  once : calls.Pairwise fun first second => ∀ line, first.Runs line → ¬second.Runs line
  /-- Every call runs one of five command lines, in the mode that is its own. -/
  only : ∀ call ∈ calls, ∃ mode line answer, call = .command mode line answer ∧
    (mode, line) ∈ [(.capture, brew.listLine), (.capture, brew.outdatedLine formula.name),
      (.stream, brew.upgradeLine formula), (.stream, brew.installLine formula),
      (.stream, brew.linkLine conflictingFormula)]
  /-- Nothing is both installed and upgraded, whatever its name. -/
  exclusive : ∀ first second : Formula, ¬(Issued calls .stream (brew.installLine first) ∧
    Issued calls .stream (brew.upgradeLine second))
  /-- Exactly a listed formula is checked for a newer version. -/
  checked_iff : Issued calls .capture (brew.outdatedLine formula.name) ↔
    brew.ListingHad calls fun listing => Lists listing formula.name
  /-- The formula is upgraded exactly after a check that replied without success. -/
  upgraded_iff : Issued calls .stream (brew.upgradeLine formula) ↔
    RepliesBadly calls .capture (brew.outdatedLine formula.name)
  /-- Exactly a formula that is not listed is installed. -/
  installed_iff : Issued calls .stream (brew.installLine formula) ↔
    brew.ListingHad calls fun listing => ¬Lists listing formula.name
  /-- The conflicting formula is relinked exactly after an installation that replied without
  success, whatever was to be installed. -/
  relinked_iff : Issued calls .stream (brew.linkLine conflictingFormula) ↔
    RepliesBadly calls .stream (brew.installLine formula)
  /-- Nothing is called after a command that could not be run, which is the failure. -/
  broken : ∀ mode line cause, .command mode line (.error cause) ∈ calls →
    calls.getLast? = some (.command mode line (.error cause)) ∧ result = .error (.io cause)
  /-- Ensuring succeeds exactly if the last call does. -/
  ok_iff : (∃ outcome, result = .ok outcome) ↔ ∃ mode line, EndsWell calls mode line
  /-- The outcome says which command was the last. -/
  outcome_iff : ∀ outcome, result = .ok outcome ↔
    EndsWell calls (lastMode outcome) (brew.lastLine formula outcome)
  /-- The fallback is exhausted exactly if the relinking is the last call and replies without
  success; the failure names the formula and has the exit code of the relinking. -/
  exhausted_iff : ∀ name code, result = .error (.fallbackExhausted name code) ↔
    name = formula.name ∧ code ≠ some 0 ∧ ∃ stdout, calls.getLast? =
      some (.command .stream (brew.linkLine conflictingFormula) (.ok ⟨code, stdout⟩))

/-! ## Commands among calls -/

section Commands

variable {calls : List Call} {mode other : Mode} {line otherLine : CommandLine}
  {answer : Except IoError Reply} {brew : Homebrew} {holds : String → Prop}

/-- Without calls, no command is run. -/
@[simp] theorem not_issued_nil : ¬Issued [] mode line := by
  simp [Issued]

/-- A command is run first or later. -/
@[simp] theorem issued_cons_iff :
    Issued (.command other otherLine answer :: calls) mode line ↔
      (mode = other ∧ line = otherLine) ∨ Issued calls mode line := by
  simp [Issued, exists_or]

/-- Without calls, no command replies. -/
@[simp] theorem not_repliesBadly_nil : ¬RepliesBadly [] mode line := by
  simp [RepliesBadly]

/-- A command replies without success first or later. -/
@[simp] theorem repliesBadly_cons_iff :
    RepliesBadly (.command other otherLine answer :: calls) mode line ↔
      (mode = other ∧ line = otherLine ∧ ∃ reply, answer = .ok reply ∧ reply.succeeded = false) ∨
        RepliesBadly calls mode line := by
  simp only [RepliesBadly, List.mem_cons, or_and_right, exists_or, Reply.succeeded]
  refine or_congr_left ⟨?_, ?_⟩
  · rintro ⟨reply, same, bad⟩
    cases same
    exact ⟨rfl, rfl, reply, rfl, decide_eq_false bad⟩
  · rintro ⟨rfl, rfl, reply, rfl, bad⟩
    exact ⟨reply, rfl, of_decide_eq_false bad⟩

/-- Without calls, the listing is not had. -/
@[simp] theorem not_listingHad_nil : ¬brew.ListingHad [] holds := by
  simp [ListingHad]

/-- The listing is had first or later. -/
@[simp] theorem listingHad_cons_iff :
    brew.ListingHad (.command mode line answer :: calls) holds ↔
      (.capture = mode ∧ brew.listLine = line ∧
        ∃ reply, answer = .ok reply ∧ reply.succeeded = true ∧ holds reply.stdout) ∨
        brew.ListingHad calls holds := by
  simp only [ListingHad, List.mem_cons, or_and_right, exists_or, Reply.succeeded]
  refine or_congr_left ⟨?_, ?_⟩
  · rintro ⟨reply, same, passed, h⟩
    cases same
    exact ⟨rfl, rfl, reply, rfl, decide_eq_true passed, h⟩
  · rintro ⟨rfl, rfl, reply, rfl, passed, h⟩
    exact ⟨reply, rfl, of_decide_eq_true passed, h⟩

/-- A reply that is refused is not one of success. -/
theorem not_succeeded_of_refused {failure : Failure}
    (refused : Step.checked line answer = .error failure) (reply : Reply)
    (given : answer = .ok reply) : reply.succeeded = false := by
  rcases Step.checked_eq_error_iff.mp refused with ⟨cause, rfl, -⟩ | ⟨other, rfl, failed, -⟩
  · cases given
  · exact Except.ok.inj given ▸ failed

end Commands

/-! ## The courses keep it -/

variable {brew : Homebrew} {formula : Formula} {calls : List Call}
  {result : Except Failure EnsureOutcome}

/-- Different outcomes have different last commands. -/
theorem lastLine_injective (brew : Homebrew) (formula : Formula) :
    Function.Injective (brew.lastLine formula) := by
  intro first second same
  cases first <;> cases second <;>
    simp [lastLine, outdatedLine, upgradeLine, installLine, linkLine, line] at same ⊢

/-- How the last call settles the result. -/
inductive Settles (brew : Homebrew) (formula : Formula) :
    Mode → CommandLine → Except IoError Reply → Except Failure EnsureOutcome → Prop where
  /-- A command that could not be run is the failure. -/
  | broken (mode : Mode) (line : CommandLine) (cause : IoError) :
      Settles brew formula mode line (.error cause) (.error (.io cause))
  /-- Nothing but the listing and the upgrade has to succeed. -/
  | refused {mode : Mode} {line : CommandLine} {reply : Reply} (failed : reply.succeeded = false)
      (required : line = brew.listLine ∨ line = brew.upgradeLine formula) :
      Settles brew formula mode line (.ok reply) (.error (.commandFailed line.render reply.code))
  /-- A relinking that fails exhausts the fallback. -/
  | exhausted {reply : Reply} (failed : reply.succeeded = false) :
      Settles brew formula .stream (brew.linkLine conflictingFormula) (.ok reply)
        (.error (.fallbackExhausted formula.name reply.code))
  /-- Any other command that is the last one succeeds. -/
  | passed (outcome : EnsureOutcome) {reply : Reply} (succeeded : reply.succeeded = true) :
      Settles brew formula (lastMode outcome) (brew.lastLine formula outcome) (.ok reply)
        (.ok outcome)

/-- A command that has to succeed settles the result if it does not. -/
theorem Settles.of_checked (mode : Mode) {line : CommandLine} {answer : Except IoError Reply}
    {failure : Failure} (required : line = brew.listLine ∨ line = brew.upgradeLine formula)
    (h : Step.checked line answer = .error failure) :
    Settles brew formula mode line answer (.error failure) := by
  rcases Step.checked_eq_error_iff.mp h with ⟨cause, rfl, rfl⟩ | ⟨reply, rfl, failed, rfl⟩
  · exact .broken mode line cause
  · exact .refused failed required

namespace EnsureCourse

/-- **The last call settles the result**, and every call before it had a reply. -/
theorem settles (course : EnsureCourse brew formula calls result) :
    ∃ before mode line answer, calls = before ++ [.command mode line answer] ∧
      (∀ mode line cause, .command mode line (.error cause) ∉ before) ∧
      Settles brew formula mode line answer result := by
  cases course with
  | listingRefused refused =>
    exact ⟨[], _, _, _, rfl, by simp, .of_checked _ (.inl rfl) refused⟩
  | checkBroken listingPassed listed cause =>
    exact ⟨[_], _, _, _, rfl, by simp, .broken _ _ cause⟩
  | upToDate listingPassed listed checkPassed =>
    exact ⟨[_], _, _, _, rfl, by simp, .passed .upToDate checkPassed⟩
  | upgraded listingPassed listed checkFailed upgradePassed =>
    exact ⟨[_, _], _, _, _, rfl, by simp, .passed .upgraded upgradePassed⟩
  | upgradeRefused listingPassed listed checkFailed refused =>
    exact ⟨[_, _], _, _, _, rfl, by simp, .of_checked _ (.inr rfl) refused⟩
  | installBroken listingPassed unlisted cause =>
    exact ⟨[_], _, _, _, rfl, by simp, .broken _ _ cause⟩
  | installed listingPassed unlisted installPassed =>
    exact ⟨[_], _, _, _, rfl, by simp, .passed .installed installPassed⟩
  | relinkBroken listingPassed unlisted installFailed cause =>
    exact ⟨[_, _], _, _, _, rfl, by simp, .broken _ _ cause⟩
  | relinked listingPassed unlisted installFailed relinkPassed =>
    exact ⟨[_, _], _, _, _, rfl, by simp, .passed .relinked relinkPassed⟩
  | exhausted listingPassed unlisted installFailed relinkFailed =>
    exact ⟨[_, _], _, _, _, rfl, by simp, .exhausted relinkFailed⟩

/-- Nothing follows a command that could not be run. -/
theorem broken (course : EnsureCourse brew formula calls result) {mode : Mode}
    {line : CommandLine} {cause : IoError} (mem : .command mode line (.error cause) ∈ calls) :
    calls.getLast? = some (.command mode line (.error cause)) ∧ result = .error (.io cause) := by
  obtain ⟨before, lastMode, last, answer, rfl, replied, settled⟩ := course.settles
  rcases List.mem_append.mp mem with early | late
  · exact absurd early (replied mode line cause)
  · cases List.mem_singleton.mp late
    cases settled
    exact ⟨by simp, rfl⟩

/-- Ensuring succeeds exactly if the last call does. -/
theorem ok_iff (course : EnsureCourse brew formula calls result) :
    (∃ outcome, result = .ok outcome) ↔ ∃ mode line, EndsWell calls mode line := by
  obtain ⟨before, mode, line, answer, rfl, -, settled⟩ := course.settles
  cases settled with
  | broken => simp [EndsWell]
  | refused failed required => simp_all [EndsWell, Reply.succeeded]
  | exhausted failed => simp_all [EndsWell, Reply.succeeded]
  | passed outcome succeeded => simp_all [EndsWell, Reply.succeeded]

/-- The outcome says which command was the last. -/
theorem outcome_iff (course : EnsureCourse brew formula calls result) (outcome : EnsureOutcome) :
    result = .ok outcome ↔ EndsWell calls (lastMode outcome) (brew.lastLine formula outcome) := by
  obtain ⟨before, mode, line, answer, rfl, -, settled⟩ := course.settles
  cases settled with
  | broken => simp [EndsWell]
  | refused failed required => simp_all [EndsWell, Reply.succeeded]
  | exhausted failed => simp_all [EndsWell, Reply.succeeded]
  | passed other succeeded =>
    constructor
    · intro same
      cases same
      exact ⟨_, by simp, of_decide_eq_true succeeded⟩
    · rintro ⟨reply, last, -⟩
      rw [List.getLast?_concat] at last
      cases lastLine_injective brew formula (Call.command.inj (Option.some.inj last)).2.1
      rfl

/-- The fallback is exhausted exactly if the relinking is the last call and replies without
success. -/
theorem exhausted_iff (course : EnsureCourse brew formula calls result) (name : String)
    (code : Option Int32) :
    result = .error (.fallbackExhausted name code) ↔ name = formula.name ∧ code ≠ some 0 ∧
      ∃ stdout, calls.getLast? =
        some (.command .stream (brew.linkLine conflictingFormula) (.ok ⟨code, stdout⟩)) := by
  obtain ⟨before, mode, line, answer, rfl, -, settled⟩ := course.settles
  rw [List.getLast?_concat]
  constructor
  · intro same
    cases same
    -- Only the relinking ends so.
    cases settled with
    | exhausted failed => exact ⟨rfl, of_decide_eq_false failed, _, rfl⟩
  · rintro ⟨rfl, bad, stdout, last⟩
    cases last
    generalize relinked : brew.linkLine conflictingFormula = line at settled
    generalize Mode.stream = mode at settled
    cases settled with
    | refused failed required =>
      subst relinked
      simp [linkLine, listLine, upgradeLine, Homebrew.line] at required
    | exhausted failed => rfl
    | passed outcome succeeded => exact absurd (of_decide_eq_true succeeded) bad

/-- A course begins with the listing and has two more calls at most. -/
theorem begins (course : EnsureCourse brew formula calls result) :
    ∃ listing rest, calls = .command .capture brew.listLine listing :: rest ∧
      rest.length ≤ 2 := by
  cases course <;> exact ⟨_, _, rfl, by simp⟩

/-- Every call of a course runs one of five command lines, in the mode that is its own. -/
theorem only (course : EnsureCourse brew formula calls result) :
    ∀ call ∈ calls, ∃ mode line answer, call = .command mode line answer ∧
      (mode, line) ∈ [(.capture, brew.listLine), (.capture, brew.outdatedLine formula.name),
        (.stream, brew.upgradeLine formula), (.stream, brew.installLine formula),
        (.stream, brew.linkLine conflictingFormula)] := by
  cases course <;> simp

/-! The commands of a course have different verbs, so which of them a call runs is read off the
first argument. -/

/-- No command line is run twice. -/
theorem once (course : EnsureCourse brew formula calls result) :
    calls.Pairwise fun first second => ∀ line, first.Runs line → ¬second.Runs line := by
  cases course <;> simp [listLine, outdatedLine, upgradeLine, installLine, linkLine, line]

/-- Nothing is both installed and upgraded. -/
theorem exclusive (course : EnsureCourse brew formula calls result) (first second : Formula) :
    ¬(Issued calls .stream (brew.installLine first) ∧
      Issued calls .stream (brew.upgradeLine second)) := by
  cases course <;> simp [listLine, outdatedLine, upgradeLine, installLine, linkLine, line]

/-- Exactly a listed formula is checked for a newer version. -/
theorem checked_iff (course : EnsureCourse brew formula calls result) :
    Issued calls .capture (brew.outdatedLine formula.name) ↔
      brew.ListingHad calls fun listing => Lists listing formula.name := by
  cases course with
  | listingRefused refused =>
    have refused := not_succeeded_of_refused refused
    simp_all [listLine, outdatedLine, line]
  | _ =>
    simp_all [listLine, outdatedLine, upgradeLine, installLine, linkLine, line,
      mem_listedNames_iff]

/-- Exactly a formula that is not listed is installed. -/
theorem installed_iff (course : EnsureCourse brew formula calls result) :
    Issued calls .stream (brew.installLine formula) ↔
      brew.ListingHad calls fun listing => ¬Lists listing formula.name := by
  cases course with
  | listingRefused refused =>
    have refused := not_succeeded_of_refused refused
    simp_all [listLine, installLine, line]
  | _ =>
    simp_all [listLine, outdatedLine, upgradeLine, installLine, linkLine, line,
      mem_listedNames_iff]

/-- The formula is upgraded exactly after a check that replied without success. -/
theorem upgraded_iff (course : EnsureCourse brew formula calls result) :
    Issued calls .stream (brew.upgradeLine formula) ↔
      RepliesBadly calls .capture (brew.outdatedLine formula.name) := by
  cases course <;>
    simp_all [listLine, outdatedLine, upgradeLine, installLine, linkLine, line]

/-- The conflicting formula is relinked exactly after an installation that replied without
success. -/
theorem relinked_iff (course : EnsureCourse brew formula calls result) :
    Issued calls .stream (brew.linkLine conflictingFormula) ↔
      RepliesBadly calls .stream (brew.installLine formula) := by
  cases course <;>
    simp_all [listLine, outdatedLine, upgradeLine, installLine, linkLine, line]

end EnsureCourse

/-- **Ensuring a formula keeps the contract**, on every host, in every state of it, and for every
formula: whatever the commands reply, and whether or not they can be run. -/
theorem ensure_keeps_contract (world : World σ) (state : σ) (brew : Homebrew)
    (formula : Formula) :
    let run := world.run (brew.ensure formula).run state
    EnsureContract brew formula run.calls run.value := by
  intro run
  have course : EnsureCourse brew formula run.calls run.value :=
    ensureCourse_of_yields (world.run_yields (brew.ensure formula).run state)
  exact {
    begins := course.begins
    once := course.once
    only := course.only
    exclusive := course.exclusive
    checked_iff := course.checked_iff
    upgraded_iff := course.upgraded_iff
    installed_iff := course.installed_iff
    relinked_iff := course.relinked_iff
    broken := fun _ _ _ mem => course.broken mem
    ok_iff := course.ok_iff
    outcome_iff := course.outcome_iff
    exhausted_iff := course.exhausted_iff }

end Homebrew

end HostProvision
