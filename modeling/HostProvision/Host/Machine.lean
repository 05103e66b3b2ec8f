import HostProvision.Event
import HostProvision.Host.FileTree
import HostProvision.Shell.Eval

/-! # Machines

A machine is a file tree with a working directory and an environment. `lookup` finds a program the
way the provisioner checks whether it is there; `execute` runs one the way the system does, which
may leave the machine with other files. -/

namespace HostProvision

namespace Host

/-- A host on which commands can be run. -/
structure Machine where
  /-- The files. -/
  tree : FileTree
  /-- The working directory, which is a directory of the tree. -/
  workingDirectory : Location
  /-- The environment. -/
  environment : List (String × Bytes)

namespace Machine

/-- The value of a variable of the environment. -/
def environmentValue? (machine : Machine) (name : String) : Option Bytes :=
  machine.environment.lookup name

/-- The path of the working directory. -/
def workingPath (machine : Machine) : Bytes :=
  Path.below [Path.slash] (machine.workingDirectory.map .name)

/-- Where a path leads. -/
def find (machine : Machine) (path : Bytes) : Except IoError FileTree.Place :=
  machine.tree.find machine.workingDirectory path

/-! ### Looking programs up -/

/-- Whether a path leads to a file that may be executed. -/
def isProgram (machine : Machine) (path : Bytes) : Bool :=
  (machine.tree.executable? machine.workingDirectory path).isSome

/-- An entry of a search path, with a leading `~` replaced by the home directory if there is one. -/
def expandHome (machine : Machine) (entry : Bytes) : Bytes :=
  match Path.components entry, machine.environmentValue? "HOME" with
  | .name [0x7E] :: rest, some home => if home = [] then entry else Path.below home rest
  | _, _ => entry

/-- The absolute form of a path: below the working directory, without a leading `.`. -/
def absolute (machine : Machine) (path : Bytes) : Bytes :=
  if Path.isAbsolute path then path
  else
    Path.below machine.workingPath ((Path.components path).dropWhile (· = .current))

/-- Looks a program up. A name of several components is taken from the working directory, and any
other name is sought in the directories of the search path. -/
def lookup (machine : Machine) (program : Bytes) : Lookup :=
  if 1 < (Path.components program).length then
    let path := machine.absolute program
    if machine.isProgram path then .found path else .missing
  else match machine.environmentValue? "PATH" with
    | none => .noSearchPath
    | some searchPath =>
      let candidates := (SearchPath.entries searchPath).map fun entry =>
        Path.join (machine.expandHome entry) program
      match candidates.find? machine.isProgram with
      | some path => .found path
      | none => .missing

/-! ### Running programs -/

/-- The search path of a process that has none in its environment. -/
def defaultSearchPath : Bytes :=
  Utf8.encode "/bin:/usr/bin"

/-- The tool that the first executable file of a name in some directories is started as. Where there
is none, a file that may not be executed is worse than none at all. -/
def launchFirst (machine : Machine) (name : Bytes) (args : List Bytes) (denied : Bool) :
    List Bytes → Except IoError Launch
  | [] => .error (if denied then .accessDenied else .noSuchEntry)
  | directory :: rest =>
    let path := if directory = [] then name else directory ++ Path.slash :: name
    match machine.tree.launch machine.workingDirectory path name args with
    | .ok launch => .ok launch
    | .error error =>
      if error = .accessDenied then machine.launchFirst name args true rest
      else if error = .noSuchEntry ∨ error = .notADirectory then
        machine.launchFirst name args denied rest
      else .error error

/-- The tool that a command line starts. A program without a slash is sought on the search path. -/
def launch (machine : Machine) (line : CommandLine) : Except IoError Launch :=
  let program := Utf8.encode line.program
  let args := line.args.map Utf8.encode
  if (program :: args).any fun text => text.contains 0 then
    .error (.other "nul byte found in provided data")
  else if program = [] then .error .noSuchEntry
  else if program.contains Path.slash then
    machine.tree.launch machine.workingDirectory program program args
  else if program.length > FileTree.maxName then .error .nameTooLong
  else
    let searchPath := (machine.environmentValue? "PATH").getD defaultSearchPath
    machine.launchFirst program args false (SearchPath.entries searchPath)

/-- What a process left when it ended. -/
structure Finished where
  /-- How it ended. -/
  ending : Ending
  /-- What it printed as output. -/
  output : Bytes
  /-- What it printed as diagnostics. -/
  diagnostics : Bytes
  /-- All that it printed, in order. -/
  printed : Bytes
  deriving Repr

/-- The reply of a command whose output was captured. -/
def Finished.captured (finished : Finished) : Reply :=
  ⟨finished.ending.code?, Utf8.lossy finished.output⟩

/-- Runs a tool, which may change the machine. -/
def run (machine : Machine) (launch : Launch) : Finished × Machine :=
  let finished :=
    Shell.run machine.tree machine.workingDirectory machine.environment launch
  ({ ending := match finished.ended with
      | .exited status => .exited (UInt8.ofNat status)
      | .killed signal => .signalled signal
     output := finished.octets .output
     diagnostics := finished.octets .diagnostics
     printed := finished.printed.flatMap Prod.snd },
    { machine with tree := finished.tree })

/-- Executes a command line. -/
def execute (machine : Machine) (line : CommandLine) : Except IoError (Finished × Machine) :=
  (machine.launch line).map machine.run

end Machine

end Host

end HostProvision
