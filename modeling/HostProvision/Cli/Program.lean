import HostProvision.Cli.Arguments
import HostProvision.Cli.Colour
import HostProvision.Cli.LogFilter
import HostProvision.Plan

/-! # The program

`Program.main` is all that the program does, as a procedure: it reads the command line, opens the
log files, carries the command out and reports how that ended. Its result is the exit code. Before
the command the program can break off, if it finds a log file that it cannot open. What of the log
messages the user sees is decided elsewhere, so the procedure is the same under every filter. -/

namespace HostProvision

namespace Cli

/-- The environment of the program. -/
abbrev Environment : Type :=
  String → Option Bytes

namespace Environment

/-- The variable that can stand in for the chosen compiler. -/
def compiler (environment : Environment) : Option Bytes :=
  environment "COMPILER"

/-- The search path. -/
def searchPath (environment : Environment) : Option Bytes :=
  environment "PATH"

/-- The setting that filters log messages. -/
def logSetting (environment : Environment) : String :=
  ((environment "BREWUP_LOG").bind Utf8.decode?).getD ""

/-- Whether help and complaints about the command line keep their styles, although no terminal shows
them. -/
def keepsStyles (environment : Environment) : Bool :=
  let isSet := fun name => ((environment name).map fun value => !value.isEmpty).getD false
  !isSet "NO_COLOR" && isSet "CLICOLOR_FORCE"

/-- Whether colours are wanted. -/
def wantsColour (environment : Environment) : Bool :=
  match (environment "CLICOLOR_FORCE").bind Utf8.decode? with
  | some value => value ≠ "0"
  | none => false

end Environment

/-- The mark before a headline. -/
def headlineMark (coloured : Bool) : String :=
  TextStyle.boldBlue.apply coloured "==> "

namespace RunOptions

/-- The lines that sum a run up. The longest time stands only where the steps together are longer
than any time that can be told, and measured steps never are: on a clock that does not go back they
take no longer together than the run. -/
def summary (coloured : Bool) (report : Report) : List String :=
  (headlineMark coloured ++ TextStyle.bold.apply coloured "Provisioning complete") ::
    report.steps.map (fun step => "    " ++ step.render) ++
    ["    total: " ++ (report.totalElapsed?.getD .longest).render]

/-- The content that is added to the file that collects search path entries. -/
def pathFileContent (update : PathUpdate) : Bytes :=
  Utf8.encode (update.shown ++ "\n")

/-- Adds a directory to the file that collects search path entries. -/
def appendToPathFile (file : String) (update : PathUpdate) : Step Unit := do
  let path := Utf8.encode file
  match ← ExceptT.lift (Procedure.request (.append path (pathFileContent update))) with
  | .ok () => Step.log (.appended update.directory path)
  | .error cause => throw (.pathFile file cause.message)

/-- Makes a search path update known to later steps and to the calling shell. -/
def publish (options : RunOptions) (environment : Environment) (update : PathUpdate) :
    Step Unit := do
  let path ← Step.ofExcept (update.apply environment.searchPath)
  Step.log (.updatedPath path)
  if let some file := options.pathFile then
    appendToPathFile file update
  ExceptT.lift (Procedure.printLine update.exportLine)

/-- Provisions the host, or shows how that would be done. -/
def provision (options : RunOptions) (settings : Settings) (compiler : Compiler) : Step Report :=
  let plan := Plan.standard compiler settings
  let step := plan.provision settings.tooling
  if options.dryRun then step.rehearse else step

/-- Carries the command out. Whether the compiler is supported is settled before anything else. -/
def perform (options : RunOptions) (environment : Environment) : Step Unit := do
  let compiler ← Step.ofExcept (Compiler.select options.compiler)
  let settings ← Settings.load environment
  Step.inSpan (.command compiler options.dryRun) do
    let report ← options.provision settings compiler
    (summary environment.wantsColour report).forM fun line =>
      ExceptT.lift (Procedure.showLine line)
    options.publish environment report.pathUpdate

end RunOptions

namespace EnsureOptions

/-- Carries the command out. -/
def perform (options : EnsureOptions) (environment : Environment) : Step Unit := do
  let settings ← Settings.load environment
  let step := settings.tooling.ensure options.formula
  let (outcome, record) ← if options.dryRun then step.rehearse else step
  let coloured := environment.wantsColour
  ExceptT.lift (Procedure.showLine
    (headlineMark coloured ++ TextStyle.bold.apply coloured record.render ++ " " ++ outcome.tag))

end EnsureOptions

/-- The lines that list the compilers, each with what has to be installed for it. -/
def compilerLines : List String :=
  Compiler.all.map fun compiler =>
    let width := 15
    let provided := match compiler.formula? with
      | some formula => " ".intercalate formula.installArgs
      | none => "(host default clang)"
    compiler.spelling ++
      String.ofList (List.replicate (width - compiler.spelling.length) ' ') ++ " " ++ provided

namespace Task

/-- Carries a command out. -/
def perform (environment : Environment) : Task → Step Unit
  | run options => options.perform environment
  | ensure options => options.perform environment
  | compilers => ExceptT.lift (compilerLines.forM Procedure.printLine)

end Task

namespace Program

/-- Opens the log files, and tells whether the program goes on. It warns of a directory that cannot
be made and goes on, but at a log file that cannot be opened it breaks off. -/
def openLogs (environment : Environment) (directory : String) : Procedure Bool := do
  let path := Utf8.encode directory
  match ← Procedure.request (.openLogs path) with
  | .opened =>
    Procedure.log (.loggingTo path)
    return true
  | .noDirectory cause =>
    Procedure.showLine (TextStyle.yellow.apply environment.wantsColour "Warning:" ++
      " Failed to create log directory " ++ directory ++ ": " ++ cause.message)
    return true
  | .noFile report =>
    Procedure.tell (.diagnostics report)
    return false

/-- Makes everything ready for the log messages of an invocation, and tells whether the program
goes on. -/
def prepareLogs (environment : Environment) (globals : GlobalOptions) : Procedure Bool := do
  (LogFilter.warnings environment.logSetting).forM Procedure.showLine
  match globals.logDirectory with
  | some directory => openLogs environment directory
  | none => return true

/-- Carries a command out and reports how it ended. -/
def carryOut (environment : Environment) (task : Task) : Procedure Int32 := do
  match ← ExceptT.run (task.perform environment) with
  | .ok () =>
    Procedure.log .commandDone
    return 0
  | .error failure =>
    Procedure.log (.commandFailed failure)
    Procedure.showLine
      (TextStyle.boldRed.apply environment.wantsColour programName ++ ": " ++ failure.message)
    return failure.exitCode

/-- The exit code of a program that breaks off. -/
def brokenOffExitCode : Int32 := 101

/-- Carries an invocation out. -/
def perform (environment : Environment) (invocation : Invocation) : Procedure Int32 := do
  if ← prepareLogs environment invocation.globals then
    carryOut environment invocation.task
  else
    return brokenOffExitCode

/-- The exit code of a command line that cannot be used. -/
def usageExitCode : Int32 := 2

/-- A text with styles, as it is shown. -/
def present (environment : Environment) (text : String) : String :=
  if environment.keepsStyles then text else Text.ControlSequence.strip text

/-- What is done instead of a command. -/
def interrupt (environment : Environment) : Interruption → Procedure Int32
  | .complaint complaint => do
    Procedure.tell (.diagnostics (Utf8.encode (present environment complaint.text)))
    return usageExitCode
  | .nothingAsked => do
    Procedure.tell (.diagnostics (Utf8.encode
      (present environment (Page.program.text environment.compiler))))
    return usageExitCode
  | .help page => do
    Procedure.tell (.output (present environment (page.text environment.compiler)))
    return 0
  | .version command => do
    Procedure.printLine (versionLine command)
    return 0

/-- What the program does with its arguments; the result is the exit code. -/
def main (environment : Environment) (args : List String) : Procedure Int32 :=
  match interpret environment.compiler args with
  | .ok invocation => perform environment invocation
  | .error interruption => interrupt environment interruption

/-- The verbosity that the arguments ask for. -/
def verbosity (environment : Environment) (args : List String) : Nat :=
  match interpret environment.compiler args with
  | .ok invocation => invocation.globals.verbosity
  | .error _ => 0

/-- What the system keeps of an exit code: its lowest eight bits. -/
def exitStatus (code : Int32) : UInt8 :=
  UInt8.ofInt code.toInt

end Program

end Cli

end HostProvision
