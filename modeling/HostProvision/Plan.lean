import HostProvision.Ensure
import HostProvision.Settings

/-! # Provisioning plans

A plan says what a host is provisioned with. It unfolds into a list of stages, which are carried out
in order until one fails. Every stage that does something leaves a record with the time it took, and
the report of a whole run asks for the directory of the installed programs to be put in front of the
search path. -/

namespace HostProvision

/-- What a host is provisioned with. -/
@[ext] structure Plan where
  /-- The compiler. -/
  compiler : Compiler
  /-- The formulas that every host gets. -/
  basePackages : List Formula
  /-- The build system, which is ensured only if its program is not found. -/
  buildSystem : Formula
  /-- The formula of Python. -/
  pythonFormula : Formula
  /-- The Python packages. -/
  pythonPackages : List String
  /-- The directory of the installed programs. -/
  binDirectory : Bytes
  deriving DecidableEq, Repr

namespace Plan

/-- A checksum tool, the GNU core utilities and a code formatter. -/
def baseFormulas : List Formula :=
  [⟨"md5sha1sum", []⟩, ⟨"coreutils", []⟩, ⟨"clang-format", []⟩]

/-- The plan for a host that is to get a given compiler. -/
def standard (compiler : Compiler) (settings : Settings) : Plan where
  compiler := compiler
  basePackages := baseFormulas
  buildSystem := ⟨"cmake", []⟩
  pythonFormula := ⟨"python3", []⟩
  pythonPackages := ["pytest", "pytest-xdist", "typed_ast"]
  binDirectory := settings.binDirectory

end Plan

/-- The package managers that carry out a plan. -/
structure Tooling where
  /-- The formula manager. -/
  brew : Homebrew
  /-- The installer of Python packages. -/
  pip : Pip
  deriving DecidableEq, Repr

/-- The package managers that settings name. -/
def Settings.tooling (settings : Settings) : Tooling :=
  ⟨⟨settings.brew⟩, ⟨settings.pip⟩⟩

namespace Step

variable {α : Type}

/-- Does a step under a name and measures it. A step that fails is told of and leaves no record. -/
def timed (name : String) (body : Step α) : Step (α × StepRecord) := do
  log (.stepStarted name)
  let start ← clock
  let result ← ExceptT.lift (ExceptT.run body)
  let record : StepRecord := ⟨name, (← clock).since start⟩
  match result with
  | .ok value =>
    log (.stepDone record)
    return (value, record)
  | .error failure =>
    log (.stepFailed record failure)
    throw failure

end Step

namespace Tooling

/-- Ensures a formula as a measured step. -/
def ensure (tooling : Tooling) (formula : Formula) : Step (EnsureOutcome × StepRecord) := do
  let (outcome, record) ←
    Step.timed ("ensure " ++ formula.name) (tooling.brew.ensure formula)
  Step.log (.ensured formula.name outcome)
  return (outcome, record)

end Tooling

/-- One stage of a plan. -/
inductive Stage where
  /-- The package index is updated. -/
  | update
  /-- A formula is ensured. -/
  | ensure (formula : Formula)
  /-- A formula is ensured unless a program of its name is found. -/
  | ensureUnlessFound (formula : Formula)
  /-- A compiler is used that the host has. -/
  | keepCompiler (compiler : Compiler)
  /-- A formula is installed, whether or not it is there. -/
  | install (formula : Formula)
  /-- A Python package is installed. -/
  | pipInstall (package : String)
  deriving DecidableEq, Repr

namespace Stage

/-- Carries out a stage; the result are the records that it leaves. -/
def run (tooling : Tooling) : Stage → Step (List StepRecord)
  | update => do
    let (_, record) ← Step.timed "brew update" tooling.brew.update
    return [record]
  | ensure formula => do
    let (_, record) ← tooling.ensure formula
    return [record]
  | ensureUnlessFound formula => do
    if ← Step.lookup formula.name then
      Step.log (.alreadyOnPath formula.name)
      return []
    else
      let (_, record) ← tooling.ensure formula
      return [record]
  | keepCompiler compiler => do
    Step.log (.defaultCompiler compiler)
    return []
  | install formula => do
    let (_, record) ←
      Step.timed ("install " ++ formula.name) (tooling.brew.installRequired formula)
    return [record]
  | pipInstall package => do
    let (_, record) ← Step.timed ("pip install " ++ package) (tooling.pip.install package)
    return [record]

/-- Carries out stages in order until one fails. -/
def runAll (tooling : Tooling) : List Stage → Step (List StepRecord)
  | [] => return []
  | stage :: rest => do
    let first ← stage.run tooling
    let others ← runAll tooling rest
    return first ++ others

end Stage

namespace Plan

/-- The stage that provides a compiler. -/
def compilerStage (compiler : Compiler) : Stage :=
  match compiler.formula? with
  | some formula => .ensure formula
  | none => .keepCompiler compiler

/-- The stages of a plan, in order. -/
def stages (plan : Plan) : List Stage :=
  .update :: plan.basePackages.map .ensure ++
    [.ensureUnlessFound plan.buildSystem, compilerStage plan.compiler,
      .install plan.pythonFormula] ++
    plan.pythonPackages.map .pipInstall

/-- Provisions the host by a plan. -/
def provision (plan : Plan) (tooling : Tooling) : Step Report :=
  Step.inSpan (.provisioning plan.compiler) do
    let steps ← Stage.runAll tooling plan.stages
    let update : PathUpdate := ⟨plan.binDirectory⟩
    Step.log (.provisioned update)
    return ⟨steps, update⟩

end Plan

end HostProvision
