import HostProvision.Elapsed.Render
import HostProvision.Elapsed.Total
import HostProvision.PathUpdate

/-! # Reports of a provisioning run

How a formula was found, what was done about it, and the record of the steps of a run with the time
that each took. -/

namespace HostProvision

/-- What the check for a newer version of a formula told. -/
inductive OutdatedStatus where
  /-- There is no newer version. -/
  | upToDate
  /-- There is a newer version. -/
  | outdated
  /-- The check failed without listing the formula. -/
  | checkFailed
  deriving DecidableEq, Repr, Inhabited

namespace OutdatedStatus

/-- All results of the check. -/
def all : List OutdatedStatus :=
  [upToDate, outdated, checkFailed]

/-- The tag that stands for a result in stored data and diagnostics. -/
def tag : OutdatedStatus → String
  | upToDate => "UpToDate"
  | outdated => "Outdated"
  | checkFailed => "CheckFailed"

/-- The result with a given tag. -/
def ofTag? (text : String) : Option OutdatedStatus :=
  all.find? fun status => status.tag = text

/-- Whether the formula is upgraded: in doubt it is. -/
def needsUpgrade : OutdatedStatus → Bool
  | upToDate => false
  | outdated | checkFailed => true

/-- A result is found by its tag. -/
@[simp] theorem ofTag?_tag (status : OutdatedStatus) : ofTag? status.tag = some status := by
  cases status <;> decide

end OutdatedStatus

/-- What was done to ensure a formula. -/
inductive EnsureOutcome where
  /-- Nothing, as it was installed in its newest version. -/
  | upToDate
  /-- It was upgraded. -/
  | upgraded
  /-- It was installed. -/
  | installed
  /-- Installing it failed, and the formula it conflicts with was relinked. -/
  | relinked
  deriving DecidableEq, Repr, Inhabited

namespace EnsureOutcome

/-- All outcomes. -/
def all : List EnsureOutcome :=
  [upToDate, upgraded, installed, relinked]

/-- The tag that stands for an outcome in stored data and diagnostics. -/
def tag : EnsureOutcome → String
  | upToDate => "UpToDate"
  | upgraded => "Upgraded"
  | installed => "Installed"
  | relinked => "Relinked"

/-- The outcome with a given tag. -/
def ofTag? (text : String) : Option EnsureOutcome :=
  all.find? fun outcome => outcome.tag = text

/-- An outcome is found by its tag. -/
@[simp] theorem ofTag?_tag (outcome : EnsureOutcome) : ofTag? outcome.tag = some outcome := by
  cases outcome <;> decide

end EnsureOutcome

/-- A step of a run and the time that it took. -/
@[ext] structure StepRecord where
  /-- The name of the step. -/
  name : String
  /-- The time that it took. -/
  elapsed : Elapsed
  deriving DecidableEq, Repr

/-- A step as it is shown. -/
def StepRecord.render (record : StepRecord) : String :=
  record.name ++ " (" ++ record.elapsed.render ++ ")"

/-- What a successful run did, and the search path update that it asks for. -/
@[ext] structure Report where
  /-- The steps in the order in which they were done. -/
  steps : List StepRecord
  /-- The update that makes the installed tools found. -/
  pathUpdate : PathUpdate
  deriving DecidableEq, Repr

namespace Report

/-- The time that all steps took together, if it fits. -/
def totalElapsed? (report : Report) : Option Elapsed :=
  Elapsed.total? (report.steps.map StepRecord.elapsed)

/-- The time that all steps took together, or the text with which the program breaks off if it does
not fit. -/
def totalElapsed (report : Report) : Except String Elapsed :=
  Elapsed.total (report.steps.map StepRecord.elapsed)

/-- The names of the steps. -/
def stepNames (report : Report) : List String :=
  report.steps.map StepRecord.name

end Report

end HostProvision
