import HostProvision.Homebrew

/-! # Ensuring a formula

To ensure a formula is to have it installed in its newest version, by as few commands as that takes:
an installed formula is upgraded only when it is not known to be up to date, and any other formula
is installed. When an installation fails, one formula is relinked whose files are known to be in the
way of others. -/

namespace HostProvision

namespace Homebrew

/-- The formula whose files are in the way of others on older hosts. -/
def conflictingFormula : String := "gcc49"

/-- Brings an installed formula to its newest version. -/
def ensureNewest (brew : Homebrew) (formula : Formula) : Step EnsureOutcome := do
  let status ← brew.outdated formula.name
  if status.needsUpgrade then
    Step.log (.upgrading formula.name status)
    brew.upgrade formula
    return .upgraded
  else
    Step.log (.upToDate formula.name)
    return .upToDate

/-- Installs a formula that is missing, and relinks the conflicting formula when that fails. -/
def ensurePresent (brew : Homebrew) (formula : Formula) : Step EnsureOutcome := do
  Step.log (.installing formula.name)
  let installation ← brew.install formula
  if installation.succeeded then
    return .installed
  else
    Step.log (.relinking formula.name installation.code conflictingFormula)
    let relinking ← brew.linkOverwriting conflictingFormula
    if relinking.succeeded then
      return .relinked
    else
      throw (.fallbackExhausted formula.name relinking.code)

/-- Ensures a formula. -/
def ensure (brew : Homebrew) (formula : Formula) : Step EnsureOutcome := do
  if ← brew.isInstalled formula.name then
    brew.ensureNewest formula
  else
    brew.ensurePresent formula

end Homebrew

end HostProvision
