import HostProvision.CommandLine
import HostProvision.Compiler
import HostProvision.Report

/-! # Events and notices

While it works, the program tells what happens. An `Event` is a log message: it has a level, the
source that it is filtered by, and its words. A `Notice` is anything that is told: an event, octets
for the diagnostic stream, text for the output stream, and the beginning and end of a `Span`, inside
which log messages carry its label. -/

namespace HostProvision

/-- How important a log message is, from errors down to the finest detail. -/
inductive Level where
  /-- Something could not be done. -/
  | error
  /-- Something went wrong and was worked around, or ends the run. -/
  | warn
  /-- What is being done. -/
  | info
  /-- Details for finding faults. -/
  | debug
  /-- The finest details. -/
  | trace
  deriving DecidableEq, Repr, Inhabited

namespace Level

/-- The name of a level in log lines. -/
def name : Level → String
  | error => "ERROR"
  | warn => "WARN"
  | info => "INFO"
  | debug => "DEBUG"
  | trace => "TRACE"

/-- How much a level lets through when it is the finest one shown. -/
def detail : Level → Nat
  | error => 1
  | warn => 2
  | info => 3
  | debug => 4
  | trace => 5

end Level

/-- What looking a program up on the search path gave. -/
inductive Lookup where
  /-- The program is this file. -/
  | found (file : Bytes)
  /-- There is no such program. -/
  | missing
  /-- There is no search path to look on. -/
  | noSearchPath
  deriving DecidableEq, Repr

namespace Lookup

/-- Whether the program was found. -/
def isFound : Lookup → Bool
  | found _ => true
  | missing | noSearchPath => false

/-- A result as diagnostics show it. -/
def diagnostic : Lookup → String
  | found file => "Ok(" ++ Text.quoted file ++ ")"
  | missing => "Err(CannotFindBinaryPath)"
  | noSearchPath => "Err(CannotGetCurrentDirAndPathListEmpty)"

end Lookup

/-- How a process ended. -/
inductive Ending where
  /-- It exited with a code. -/
  | exited (code : UInt8)
  /-- A signal ended it. -/
  | signalled (number : Nat)
  deriving DecidableEq, Repr

namespace Ending

/-- The names of the signals, from number 1 on. -/
def signalNames : List String :=
  ["SIGHUP", "SIGINT", "SIGQUIT", "SIGILL", "SIGTRAP", "SIGABRT", "SIGBUS", "SIGFPE", "SIGKILL",
   "SIGUSR1", "SIGSEGV", "SIGUSR2", "SIGPIPE", "SIGALRM", "SIGTERM", "SIGSTKFLT", "SIGCHLD",
   "SIGCONT", "SIGSTOP", "SIGTSTP", "SIGTTIN", "SIGTTOU", "SIGURG", "SIGXCPU", "SIGXFSZ",
   "SIGVTALRM", "SIGPROF", "SIGWINCH", "SIGIO", "SIGPWR", "SIGSYS"]

/-- The exit code of a process that was not ended by a signal. -/
def code? : Ending → Option Int32
  | exited code => some (Int32.ofNat code.toNat)
  | signalled _ => none

/-- Whether the process did its work. -/
def succeeded : Ending → Bool
  | exited code => code = 0
  | signalled _ => false

/-- An ending as diagnostics show it. -/
def diagnostic : Ending → String
  | exited code => "exit status: " ++ toString code.toNat
  | signalled number =>
    "signal: " ++ toString number ++
      match number with
      | 0 => ""
      | index + 1 => match signalNames[index]? with
        | some name => " (" ++ name ++ ")"
        | none => ""

end Ending

/-- A log message. -/
inductive Event where
  /-- The settings are about to be read. -/
  | loadingSettings
  /-- No installation root is set, so the default is used. -/
  | defaultRoot (root : String)
  /-- The installation root that is used. -/
  | effectiveRoot (root : String)
  /-- The executables that are used. -/
  | executables (brew pip : String)
  /-- A program was looked up. -/
  | lookedUp (program : String) (result : Lookup)
  /-- A command is run and what it prints is kept. -/
  | capturing (line : CommandLine)
  /-- A command is run and what it prints is shown. -/
  | streaming (line : CommandLine)
  /-- A command ended without success. -/
  | endedBadly (line : CommandLine) (ending : Ending)
  /-- What a captured command told when it ended without success. -/
  | complaints (text : String)
  /-- A command could not be run. -/
  | cannotRun (line : CommandLine) (cause : IoError)
  /-- Whether a formula is installed. -/
  | installed (name : String) (answer : Bool)
  /-- What the check for a newer version told. -/
  | outdatedCheck (name : String) (status : OutdatedStatus)
  /-- A formula needs nothing. -/
  | upToDate (name : String)
  /-- A formula is about to be upgraded. -/
  | upgrading (name : String) (status : OutdatedStatus)
  /-- A formula is about to be installed. -/
  | installing (name : String)
  /-- Installing a formula failed, and another one is about to be relinked. -/
  | relinking (name : String) (code : Option Int32) (conflicting : String)
  /-- A step begins. -/
  | stepStarted (name : String)
  /-- A step is done. -/
  | stepDone (record : StepRecord)
  /-- A step failed. -/
  | stepFailed (record : StepRecord) (failure : Failure)
  /-- A formula is ensured. -/
  | ensured (name : String) (outcome : EnsureOutcome)
  /-- A formula is not needed, as its program is already there. -/
  | alreadyOnPath (name : String)
  /-- No compiler has to be installed. -/
  | defaultCompiler (compiler : Compiler)
  /-- All steps are done. -/
  | provisioned (update : PathUpdate)
  /-- The search path that the update leads to. -/
  | updatedPath (path : Bytes)
  /-- A directory was written to the file that collects search path entries. -/
  | appended (directory file : Bytes)
  /-- Log messages go to a file, too. -/
  | loggingTo (directory : Bytes)
  /-- The command of the user failed. -/
  | commandFailed (failure : Failure)
  /-- The command of the user is done. -/
  | commandDone
  deriving DecidableEq, Repr

namespace Event

/-- The level of a log message. -/
def level : Event → Level
  | cannotRun .. => .error
  | relinking .. | stepFailed .. => .warn
  | upgrading .. | installing .. | stepStarted .. | stepDone .. | alreadyOnPath ..
  | defaultCompiler .. => .info
  | _ => .debug

/-- The source of a log message, by which it can be filtered. -/
def source : Event → String
  | loadingSettings | defaultRoot .. | effectiveRoot .. | executables .. => "brewup_common::config"
  | lookedUp .. | capturing .. | streaming .. | endedBadly .. | complaints .. | cannotRun .. =>
    "brewup_core::process"
  | installed .. | outdatedCheck .. => "brewup_core::brew"
  | upToDate .. | upgrading .. | installing .. | relinking .. => "brewup_core::ensure"
  | stepStarted .. | stepDone .. | stepFailed .. | ensured .. | alreadyOnPath ..
  | defaultCompiler .. | provisioned .. => "brewup_core::provision"
  | updatedPath .. | appended .. => "brewup::cli::run"
  | loggingTo .. | commandFailed .. | commandDone => "brewup"

/-- An optional exit code as diagnostics show it. -/
def codeDiagnostic : Option Int32 → String
  | some code => "Some(" ++ toString code.toInt ++ ")"
  | none => "None"

/-- A text between apostrophes. -/
def named (text : String) : String :=
  "'" ++ text ++ "'"

/-- The words of a log message. -/
def message : Event → String
  | loadingSettings => "Loading brewup configuration"
  | defaultRoot root => "HOMEBREW_PREFIX not set or empty, falling back to default: " ++ root
  | effectiveRoot root => "Effective Homebrew prefix: " ++ root
  | executables brew pip => "Using brew=" ++ named brew ++ ", pip=" ++ named pip
  | lookedUp program result => "PATH lookup for " ++ named program ++ ": " ++ result.diagnostic
  | capturing line => "Running command (captured): " ++ line.render
  | streaming line => "Running command: " ++ line.render
  | endedBadly line ending =>
    "Command " ++ named line.render ++ " failed with status: " ++ ending.diagnostic
  | complaints text => "Stderr:\n" ++ text
  | cannotRun line cause => "Failed to execute " ++ named line.render ++ ": " ++ cause.message
  | installed name answer => named name ++ " installed: " ++ if answer then "true" else "false"
  | outdatedCheck name status => named name ++ " outdated check: " ++ status.tag
  | upToDate name => named name ++ " is installed and up to date"
  | upgrading name status => "Upgrading " ++ named name ++ " (" ++ status.tag ++ ")"
  | installing name => "Installing " ++ named name
  | relinking name code conflicting =>
    "Installing " ++ named name ++ " failed (exit " ++ codeDiagnostic code ++ "); relinking " ++
      named conflicting ++ " with --overwrite"
  | stepStarted name => "==> " ++ name
  | stepDone record => record.render
  | stepFailed record failure => record.render ++ " failed: " ++ failure.message
  | ensured name outcome => named name ++ " ensured via " ++ outcome.tag
  | alreadyOnPath name => named name ++ " already on PATH, skipping"
  | defaultCompiler compiler => "Using the host's default clang for " ++ named compiler.spelling
  | provisioned update => "Provisioning finished; PATH update: " ++ update.diagnostic
  | updatedPath path => "PATH after this run: " ++ Text.quoted path
  | appended directory file => "Appended " ++ Utf8.lossy directory ++ " to " ++ Utf8.lossy file
  | loggingTo directory => "Writing logs to: " ++ Utf8.lossy directory ++ "/brewup.log"
  | commandFailed failure => "Command failed: " ++ failure.message
  | commandDone => "Command completed successfully."

end Event

/-- The value of a field of a span. -/
inductive FieldValue where
  /-- A truth value. -/
  | truth (value : Bool)
  /-- A text. -/
  | text (value : String)
  deriving DecidableEq, Repr

/-- The value of a field as labels show it. -/
def FieldValue.shown : FieldValue → String
  | truth value => if value then "true" else "false"
  | text value => value

/-- A stretch of work whose log messages carry a label. -/
inductive Span where
  /-- The command that provisions the host. -/
  | command (compiler : Compiler) (dryRun : Bool)
  /-- The provisioning itself. -/
  | provisioning (compiler : Compiler)
  deriving DecidableEq, Repr

namespace Span

/-- The name of a span. -/
def name : Span → String
  | command .. | provisioning .. => "run"

/-- The source of a span, by which it can be filtered. -/
def source : Span → String
  | command .. => "brewup::cli::run"
  | provisioning .. => "brewup_core::provision"

/-- The fields of a span. -/
def fields : Span → List (String × FieldValue)
  | command compiler dryRun =>
    [("compiler", .text compiler.tag), ("dry_run", .truth dryRun)]
  | provisioning compiler => [("compiler", .text compiler.spelling)]

end Span

/-- Anything that the program tells while it works. -/
inductive Notice where
  /-- A log message. -/
  | event (event : Event)
  /-- Octets for the diagnostic stream. -/
  | diagnostics (octets : Bytes)
  /-- Text for the output stream. -/
  | output (text : String)
  /-- A span begins. -/
  | enter (span : Span)
  /-- The innermost span ends. -/
  | leave
  deriving DecidableEq, Repr

end HostProvision
