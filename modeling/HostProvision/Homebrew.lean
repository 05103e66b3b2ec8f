import HostProvision.Procedure
import HostProvision.Text.Blank
import HostProvision.Text.Lines

/-! # Homebrew and pip

The operations of the two package managers, each as one command: what is asked, which replies are
failures, and what is read from the output. The listing of installed formulas has one name on each
line; the check for newer versions names a formula as the first word of a line. -/

namespace HostProvision

/-- The formula manager, by its executable. -/
structure Homebrew where
  /-- The executable. -/
  executable : String
  deriving DecidableEq, Repr

namespace Homebrew

/-- The command line with given arguments. -/
def line (brew : Homebrew) (args : List String) : CommandLine :=
  ⟨brew.executable, args⟩

/-- The command that updates the package index. -/
def updateLine (brew : Homebrew) : CommandLine :=
  brew.line ["update"]

/-- The command that lists the installed formulas. -/
def listLine (brew : Homebrew) : CommandLine :=
  brew.line ["list", "-1"]

/-- The command that checks a formula for a newer version. -/
def outdatedLine (brew : Homebrew) (name : String) : CommandLine :=
  brew.line ["outdated", name]

/-- The command that installs a formula. -/
def installLine (brew : Homebrew) (formula : Formula) : CommandLine :=
  brew.line ("install" :: formula.installArgs)

/-- The command that upgrades a formula. -/
def upgradeLine (brew : Homebrew) (formula : Formula) : CommandLine :=
  brew.line ("upgrade" :: formula.installArgs)

/-- The command that links a formula over files that are in its way. -/
def linkLine (brew : Homebrew) (name : String) : CommandLine :=
  brew.line ["link", "--overwrite", name]

/-- The names in a listing: its lines without blank ends, except for blank lines. -/
def listedNames (listing : String) : List String :=
  ((Text.lines listing.toList).map Text.trim |>.filter fun name => !name.isEmpty).map String.ofList

/-- Whether a formula is named as the first word of a line. -/
def isNamed (name : String) (output : String) : Bool :=
  (Text.lines output.toList).any fun line => Text.firstWord? line = some name.toList

/-- What the reply to a check for a newer version means. A formula that has one makes the check end
without success and is named in its output. -/
def statusOf (reply : Reply) (name : String) : OutdatedStatus :=
  if reply.succeeded then .upToDate
  else if isNamed name reply.stdout then .outdated
  else .checkFailed

/-- Updates the package index. -/
def update (brew : Homebrew) : Step Unit := do
  discard (Step.commandChecked .stream brew.updateLine)

/-- The names of the installed formulas. -/
def listInstalled (brew : Homebrew) : Step (List String) := do
  let reply ← Step.commandChecked .capture brew.listLine
  return listedNames reply.stdout

/-- Whether a formula with exactly this name is installed. -/
def isInstalled (brew : Homebrew) (name : String) : Step Bool := do
  let answer := (← brew.listInstalled).contains name
  Step.log (.installed name answer)
  return answer

/-- Checks a formula for a newer version. -/
def outdated (brew : Homebrew) (name : String) : Step OutdatedStatus := do
  let reply ← Step.command .capture (brew.outdatedLine name)
  let status := statusOf reply name
  Step.log (.outdatedCheck name status)
  return status

/-- Installs a formula and leaves it to the caller what a bad end means. -/
def install (brew : Homebrew) (formula : Formula) : Step Reply :=
  Step.command .stream (brew.installLine formula)

/-- Installs a formula, which has to succeed. -/
def installRequired (brew : Homebrew) (formula : Formula) : Step Unit := do
  discard (Step.commandChecked .stream (brew.installLine formula))

/-- Upgrades a formula, which has to succeed. -/
def upgrade (brew : Homebrew) (formula : Formula) : Step Unit := do
  discard (Step.commandChecked .stream (brew.upgradeLine formula))

/-- Links a formula over files that are in its way, and leaves it to the caller what a bad end
means. -/
def linkOverwriting (brew : Homebrew) (name : String) : Step Reply :=
  Step.command .stream (brew.linkLine name)

end Homebrew

/-- The installer of Python packages, by its executable. -/
structure Pip where
  /-- The executable. -/
  executable : String
  deriving DecidableEq, Repr

namespace Pip

/-- The command that installs a package. -/
def installLine (pip : Pip) (package : String) : CommandLine :=
  ⟨pip.executable, ["install", package]⟩

/-- Installs a package, which has to succeed. -/
def install (pip : Pip) (package : String) : Step Unit := do
  discard (Step.commandChecked .stream (pip.installLine package))

end Pip

end HostProvision
