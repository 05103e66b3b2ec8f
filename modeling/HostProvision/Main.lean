import HostProvision.Cli.Display
import HostProvision.Cli.Program
import Mathlib.Tactic.DeprecateTo

/-! # The command line

`main` carries the program out on the host that it is started on. Each request of the procedure is
answered by the system, and each notice appears on the streams at once. Some of what the program
asks for cannot be had from here. Commands are shown by a dry run but not started: a request to run
one is answered by the error of an operation that the host does not offer. The right to execute a
file cannot be asked for, so in a lookup every file that can be read counts as a program. Log files
are opened, but nothing is written to them. -/

namespace HostProvision

namespace Console

/-- The variables of the environment that the program goes by. -/
def variableNames : List String :=
  ["PATH", "HOME", "COMPILER", "HOMEBREW_PREFIX", "BREWUP_BREW", "BREWUP_PIP", "BREWUP_LOG",
   "CLICOLOR_FORCE", "NO_COLOR"]

/-- The environment of this process, as far as the program goes by it. -/
def environment : IO Cli.Environment := do
  let settings ← variableNames.filterMapM fun name => do
    return (← IO.getEnv name).map fun value => (name, Utf8.encode value)
  return fun name => settings.lookup name

/-- The cause of an operation that the system refused. -/
def cause : IO.Error → IoError
  | .noFileOrDirectory .. => .noSuchEntry
  | .permissionDenied .. => .accessDenied
  | .alreadyExists .. => .alreadyExists
  | .otherError errno _ => .system (Int32.ofNat errno.toNat)
  | other => .other (toString other)

/-- Does something that the system may refuse. -/
def attempt {α : Type} (action : IO α) : IO (Except IoError α) := do
  match ← action.toBaseIO with
  | .ok value => return .ok value
  | .error error => return .error (cause error)

/-- Whether there is a file at a path that can be read, which stands for a program. -/
def isFile (path : Bytes) : IO Bool := do
  let readable ← attempt do
    let file ← IO.FS.Handle.mk (Utf8.lossy path) .read
    file.read 1
  return readable.toOption.isSome

/-- Looks a program up in the directories of the search path. -/
def lookup (environment : Cli.Environment) (program : Bytes) : IO Lookup := do
  if 1 < (Path.components program).length then
    return if ← isFile program then .found program else .missing
  match environment.searchPath with
  | none => return .noSearchPath
  | some searchPath =>
    let candidates := (SearchPath.entries searchPath).map fun entry => Path.join entry program
    match ← candidates.findM? isFile with
    | some file => return .found file
    | none => return .missing

/-- Adds octets at the end of a file. -/
def append (file content : Bytes) : IO (Except IoError Unit) :=
  attempt do
    let handle ← IO.FS.Handle.mk (Utf8.lossy file) .append
    handle.write ⟨content.toArray⟩

/-- The present day by universal time, written as year, month and day. -/
def today : IO String := do
  let now ← Std.Time.Timestamp.now
  return (Std.Time.PlainDate.ofEpochDay now.toDaysSinceUnixEpoch).toSQLDateString

/-- Makes a directory with its parents, and opens the log file of the day in it. Of a log file that
cannot be opened only the cause is told. -/
def openLogs (directory : Bytes) : IO LogOpening := do
  match ← attempt (IO.FS.createDirAll (Utf8.lossy directory)) with
  | .error cause => return .noDirectory cause
  | .ok () =>
    match ← append (Path.join directory (LogOpening.fileName (← today))) [] with
    | .error cause => return .noFile (Utf8.encode (cause.message ++ "\n"))
    | .ok () => return .opened

/-- The answer to a request, with what is told on the way. -/
def answer (environment : Cli.Environment) :
    (request : Request) → IO (request.Answer × List Notice)
  | .clock => do
    return ((Elapsed.ofNanos? (← IO.monoNanosNow)).getD .longest, [])
  | .command mode line => do
    let started := match mode with
      | .capture => Event.capturing line
      | .stream => Event.streaming line
    return (.error .notOffered, [.event started, .event (.cannotRun line .notOffered)])
  | .lookup program => do
    let result ← lookup environment (Utf8.encode program)
    return (result.isFound, [.event (.lookedUp program result)])
  | .append file content => do
    return (← append file content, [])
  | .openLogs directory => do
    return (← openLogs directory, [])

/-- Sends what has appeared to the streams of this process. -/
def flush (display : Cli.Display) : IO Cli.Display := do
  let output ← IO.getStdout
  output.putStr display.outputText
  output.flush
  let diagnostics ← IO.getStderr
  diagnostics.write ⟨display.diagnosticOctets.toArray⟩
  diagnostics.flush
  return { display with output := [], diagnostics := [] }

/-- Carries a procedure out. The entries of its record are shown as they come up. -/
def carryOut {α : Type} (environment : Cli.Environment)
    (showEntry : Cli.Display → Entry → Cli.Display) : Procedure α → Cli.Display → IO α
  | .done value, _ => return value
  | .notify notice next, display => do
    carryOut environment showEntry next (← flush (showEntry display (.told notice)))
  | .ask request next, display => do
    let (answer, notices) ← answer environment request
    let entries := notices.map Entry.told ++ [.exchange request answer]
    carryOut environment showEntry (next answer) (← flush (entries.foldl showEntry display))

/-- Runs the program on this host; the result is the exit code. -/
def run (args : List String) : IO UInt32 := do
  let environment ← environment
  let verbosity := Cli.Program.verbosity environment args
  let filter := Cli.LogFilter.ofSetting environment.logSetting verbosity
  let showEntry := Cli.Display.entry filter (Cli.LogFilter.defaultDetail verbosity)
  let code ← carryOut environment showEntry (Cli.Program.main environment args) {}
  return (Cli.Program.exitStatus code).toUInt32

end Console

end HostProvision

/-- The program as it is started from a command line. -/
def main (args : List String) : IO UInt32 :=
  HostProvision.Console.run args
