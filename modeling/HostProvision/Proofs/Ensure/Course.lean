import HostProvision.Ensure
import HostProvision.Proofs.Transcript

/-! # The courses of ensuring a formula

`Homebrew.EnsureCourse` lists the courses that ensuring a formula can take, from one call to three:
what is called, what is answered, and how it ends. `Homebrew.ensureCourse_of_yields` says that there
are no others, so a fact about ensuring is proved by one case for each course. -/

namespace HostProvision

variable {calls : List Call}

namespace Homebrew

/-! ## Three calls at most -/

/-- The courses that ensuring a formula can take: what is called and answered, and the result. -/
inductive EnsureCourse (brew : Homebrew) (formula : Formula) :
    List Call → Except Failure EnsureOutcome → Prop where
  /-- The listing cannot be had. -/
  | listingRefused {listing : Except IoError Reply} {failure : Failure}
      (refused : Step.checked brew.listLine listing = .error failure) :
      EnsureCourse brew formula [.command .capture brew.listLine listing] (.error failure)
  /-- The formula is listed, but cannot be checked for a newer version. -/
  | checkBroken {listing : Reply} (listingPassed : listing.succeeded = true)
      (listed : formula.name ∈ listedNames listing.stdout) (cause : IoError) :
      EnsureCourse brew formula
        [.command .capture brew.listLine (.ok listing),
          .command .capture (brew.outdatedLine formula.name) (.error cause)]
        (.error (.io cause))
  /-- The formula is listed and up to date. -/
  | upToDate {listing check : Reply} (listingPassed : listing.succeeded = true)
      (listed : formula.name ∈ listedNames listing.stdout)
      (checkPassed : check.succeeded = true) :
      EnsureCourse brew formula
        [.command .capture brew.listLine (.ok listing),
          .command .capture (brew.outdatedLine formula.name) (.ok check)]
        (.ok .upToDate)
  /-- The formula is listed and not known to be up to date, and is upgraded. -/
  | upgraded {listing check upgrade : Reply} (listingPassed : listing.succeeded = true)
      (listed : formula.name ∈ listedNames listing.stdout)
      (checkFailed : check.succeeded = false) (upgradePassed : upgrade.succeeded = true) :
      EnsureCourse brew formula
        [.command .capture brew.listLine (.ok listing),
          .command .capture (brew.outdatedLine formula.name) (.ok check),
          .command .stream (brew.upgradeLine formula) (.ok upgrade)]
        (.ok .upgraded)
  /-- The formula is listed and not known to be up to date, and cannot be upgraded. -/
  | upgradeRefused {listing check : Reply} (listingPassed : listing.succeeded = true)
      (listed : formula.name ∈ listedNames listing.stdout)
      (checkFailed : check.succeeded = false) {upgrade : Except IoError Reply} {failure : Failure}
      (refused : Step.checked (brew.upgradeLine formula) upgrade = .error failure) :
      EnsureCourse brew formula
        [.command .capture brew.listLine (.ok listing),
          .command .capture (brew.outdatedLine formula.name) (.ok check),
          .command .stream (brew.upgradeLine formula) upgrade]
        (.error failure)
  /-- The formula is not listed, but cannot be installed for want of the command. -/
  | installBroken {listing : Reply} (listingPassed : listing.succeeded = true)
      (unlisted : formula.name ∉ listedNames listing.stdout) (cause : IoError) :
      EnsureCourse brew formula
        [.command .capture brew.listLine (.ok listing),
          .command .stream (brew.installLine formula) (.error cause)]
        (.error (.io cause))
  /-- The formula is not listed and is installed. -/
  | installed {listing installation : Reply} (listingPassed : listing.succeeded = true)
      (unlisted : formula.name ∉ listedNames listing.stdout)
      (installPassed : installation.succeeded = true) :
      EnsureCourse brew formula
        [.command .capture brew.listLine (.ok listing),
          .command .stream (brew.installLine formula) (.ok installation)]
        (.ok .installed)
  /-- The formula cannot be installed, nor can the conflicting one be relinked for want of the
  command. -/
  | relinkBroken {listing installation : Reply} (listingPassed : listing.succeeded = true)
      (unlisted : formula.name ∉ listedNames listing.stdout)
      (installFailed : installation.succeeded = false) (cause : IoError) :
      EnsureCourse brew formula
        [.command .capture brew.listLine (.ok listing),
          .command .stream (brew.installLine formula) (.ok installation),
          .command .stream (brew.linkLine conflictingFormula) (.error cause)]
        (.error (.io cause))
  /-- The formula cannot be installed, and the conflicting one is relinked. -/
  | relinked {listing installation relinking : Reply} (listingPassed : listing.succeeded = true)
      (unlisted : formula.name ∉ listedNames listing.stdout)
      (installFailed : installation.succeeded = false)
      (relinkPassed : relinking.succeeded = true) :
      EnsureCourse brew formula
        [.command .capture brew.listLine (.ok listing),
          .command .stream (brew.installLine formula) (.ok installation),
          .command .stream (brew.linkLine conflictingFormula) (.ok relinking)]
        (.ok .relinked)
  /-- Neither can the formula be installed nor the conflicting one be relinked. -/
  | exhausted {listing installation relinking : Reply} (listingPassed : listing.succeeded = true)
      (unlisted : formula.name ∉ listedNames listing.stdout)
      (installFailed : installation.succeeded = false)
      (relinkFailed : relinking.succeeded = false) :
      EnsureCourse brew formula
        [.command .capture brew.listLine (.ok listing),
          .command .stream (brew.installLine formula) (.ok installation),
          .command .stream (brew.linkLine conflictingFormula) (.ok relinking)]
        (.error (.fallbackExhausted formula.name relinking.code))

variable {brew : Homebrew} {formula : Formula} {result : Except Failure EnsureOutcome}

/-- A status asks for an upgrade if the check did not succeed, whatever it printed. -/
@[simp] theorem needsUpgrade_statusOf (reply : Reply) (name : String) :
    (statusOf reply name).needsUpgrade = !reply.succeeded := by
  rw [statusOf]
  cases reply.succeeded with
  | true => rfl
  | false => cases isNamed name reply.stdout <;> rfl

/-- A listed formula is checked, and upgraded unless the check succeeds. -/
theorem ensureCourse_of_ensureNewest {listing : Reply} (listingPassed : listing.succeeded = true)
    (listed : formula.name ∈ listedNames listing.stdout)
    (h : (brew.ensureNewest formula).Yields calls result) :
    EnsureCourse brew formula (.command .capture brew.listLine (.ok listing) :: calls) result := by
  simp only [ensureNewest, outdated, bind_assoc, pure_bind, Step.yields_command_bind_iff,
    Step.yields_log_bind_iff, needsUpgrade_statusOf] at h
  rcases h with ⟨cause, rfl, rfl⟩ | ⟨check, rest, rfl, h⟩
  · exact .checkBroken listingPassed listed cause
  · -- The reply to the check is not required to be one of success: it only settles what follows.
    cases passed : check.succeeded with
    | true =>
      simp only [passed, Bool.not_true, Bool.false_eq_true, if_false, Step.yields_log_bind_iff,
        Step.yields_pure_iff] at h
      obtain ⟨rfl, rfl⟩ := h
      exact .upToDate listingPassed listed passed
    | false =>
      simp only [passed, Bool.not_false, if_true, Step.yields_log_bind_iff, upgrade,
        Step.discard_bind, Step.yields_commandChecked_bind_iff, Step.yields_pure_iff] at h
      rcases h with
        ⟨answer, failure, refused, rfl, rfl⟩ | ⟨upgrade, _, upgradePassed, rfl, rfl, rfl⟩
      · exact .upgradeRefused listingPassed listed passed refused
      · exact .upgraded listingPassed listed passed upgradePassed

/-- A formula that is not listed is installed, and the conflicting one is relinked if that fails. -/
theorem ensureCourse_of_ensurePresent {listing : Reply} (listingPassed : listing.succeeded = true)
    (unlisted : formula.name ∉ listedNames listing.stdout)
    (h : (brew.ensurePresent formula).Yields calls result) :
    EnsureCourse brew formula (.command .capture brew.listLine (.ok listing) :: calls) result := by
  rw [ensurePresent, Step.yields_log_bind_iff, install, Step.yields_command_bind_iff] at h
  rcases h with ⟨cause, rfl, rfl⟩ | ⟨installation, rest, rfl, h⟩
  · exact .installBroken listingPassed unlisted cause
  · -- Nor is the reply to the installation, which is only required to be there.
    cases installPassed : installation.succeeded with
    | true =>
      simp only [installPassed, if_true, Step.yields_pure_iff] at h
      obtain ⟨rfl, rfl⟩ := h
      exact .installed listingPassed unlisted installPassed
    | false =>
      simp only [installPassed, Bool.false_eq_true, if_false, Step.yields_log_bind_iff,
        linkOverwriting, Step.yields_command_bind_iff] at h
      rcases h with ⟨cause, rfl, rfl⟩ | ⟨relinking, rest, rfl, h⟩
      · exact .relinkBroken listingPassed unlisted installPassed cause
      · cases relinkPassed : relinking.succeeded with
        | true =>
          simp only [relinkPassed, if_true, Step.yields_pure_iff] at h
          obtain ⟨rfl, rfl⟩ := h
          exact .relinked listingPassed unlisted installPassed relinkPassed
        | false =>
          simp only [relinkPassed, Bool.false_eq_true, if_false, Step.yields_throw_iff] at h
          obtain ⟨rfl, rfl⟩ := h
          exact .exhausted listingPassed unlisted installPassed relinkPassed

/-- **What ensuring a formula calls, and how it ends, is one of its courses.** -/
theorem ensureCourse_of_yields (h : (brew.ensure formula).Yields calls result) :
    EnsureCourse brew formula calls result := by
  simp only [ensure, isInstalled, listInstalled, bind_assoc, pure_bind,
    Step.yields_commandChecked_bind_iff, Step.yields_log_bind_iff] at h
  rcases h with ⟨answer, failure, refused, rfl, rfl⟩ | ⟨listing, rest, listingPassed, rfl, h⟩
  · exact .listingRefused refused
  · by_cases listed : formula.name ∈ listedNames listing.stdout
    · rw [if_pos (List.contains_iff_mem.mpr listed)] at h
      exact ensureCourse_of_ensureNewest listingPassed listed h
    · rw [if_neg fun contained => listed (List.contains_iff_mem.mp contained)] at h
      exact ensureCourse_of_ensurePresent listingPassed listed h

end Homebrew

end HostProvision
