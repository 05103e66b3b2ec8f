import HostProvision.Shell.Builtin.Declarations
import HostProvision.Shell.Child

/-! # Programs

A process that starts a program becomes that program: it keeps its number, its descriptors and its
working directory, while its exported variables become the environment. A program is a tool of the
host; among them is the shell itself, which reads a script from an argument, a file or its input. -/

namespace HostProvision

namespace Shell

open Host (Launch Location Tool)

/-! ### The beginning of a process -/

/-- The variables that stay known when they are unset. -/
def lastingNames : List String :=
  ["IFS", "MAIL", "MAILPATH", "OPTIND", "PATH", "PS1", "PS2", "PS4"]

/-- The variables of a shell at first, given the environment and the number of its parent. The
environment has no say in how fields are split. -/
def initialBindings (environment : List (String × Bytes)) (parent : Nat) :
    List (String × Variable) :=
  let imported := environment.filter fun entry => isName entry.1
  let standard (name : String) (value : Bytes) (overrules : Bool) : String × Variable :=
    let given? := imported.lookup name
    let value := if overrules then value else given?.getD value
    (name, { value := some value, isExported := given?.isSome, isLasting := lastingNames.contains name })
  let fixed :=
    [standard "IFS" State.blanks true, standard "OPTIND" (ascii "1") true,
     standard "PPID" (ascii (toString parent)) true, standard "PATH" Builtin.standardPath false,
     standard "PS1" (ascii "$ ") false, standard "PS2" (ascii "> ") false,
     standard "PS4" (ascii "+ ") false]
  let others := imported.filter fun entry => (fixed.lookup entry.1).isNone
  fixed ++ others.map fun (name, value) =>
    (name, { value := some value, isExported := true, isLasting := lastingNames.contains name })

/-- The process that a program begins with, given its environment. The path of its working directory
is taken from there, if it leads there. -/
def Process.begin (process : Process) (state : State) (environment : List (String × Bytes))
    (name : Bytes) : Process :=
  let physical := Path.below [Path.slash] (process.directory.map .name)
  let path := match environment.lookup "PWD" with
    | some path =>
      let leads := match state.shared.tree.find process.directory path with
        | .ok (.present location .directory) => location = process.directory
        | _ => false
      if Path.isAbsolute path && leads then path else physical
    | none => physical
  let others := (initialBindings environment process.parent).filter fun entry => entry.1 ≠ "PWD"
  { number := process.number
    parent := process.parent
    script := process.number
    directory := process.directory
    path
    bindings := ("PWD", { value := some path, isExported := true }) :: others
    name
    line := 0
    ignored := process.ignored ++
      (process.traps.filter fun entry => entry.2.isEmpty).map Prod.fst
    descriptors := process.descriptors
    fileMask := process.fileMask }

/-! ### Tools -/

/-- Copies files to the output; the input goes by the name of a dash. -/
def copyFiles : List Bytes → Action Unit
  | [] => return
  | path :: rest => do
    let state ← get
    let opened : Except IoError (Stream × Shared) := match path, state.descriptors.lookup 0 with
      | [0x2D], some stream => .ok (stream, state.shared)
      | [0x2D], none => .error (IoError.system 9)
      | path, _ =>
        match state.find path with
        | .ok (.present _ .directory) => .error .isADirectory
        | _ => openForReading state path
    match opened with
    | .ok (stream, shared) =>
      let octets := (shared.pending? stream).getD []
      set { state with shared := shared.skip stream octets.length [] }
      unless octets = [] do
        unless ← Action.write 1 octets do
          discard <| Action.write 2 (ascii "cat: write error\n")
          Action.setStatus 1
    | .error cause =>
      let words := match cause with
        | .system errno => (IoError.description? errno.toInt).getD ""
        | .other text => text
      discard <| Action.write 2 (ascii "cat: " ++ path ++ ascii (": " ++ words ++ "\n"))
      Action.setStatus 1
    copyFiles rest

/-- Runs the shell with arguments. -/
def runShell (run : Runner) (args : List Bytes) : Action Unit := do
  let read ← Builtin.setToggles true args.length args
  Builtin.refuseMonitor
  match read.hasScript, read.rest with
  | true, [] => Action.fail (ascii "-c requires an argument")
  | true, script :: operands =>
    modify fun state =>
      { state with name := operands.head?.getD state.name, args := operands.drop 1, line := 1 }
    discard <| runText run { isLast := true } script
  | false, operands =>
    if operands = [] then Builtin.toggle true .fromInput
    if (← get).has .fromInput then
      let state ← get
      let octets := ((state.descriptors.lookup 0).bind state.shared.pending?).getD []
      if let some stream := state.descriptors.lookup 0 then
        set { state with shared := state.shared.skip stream octets.length [] }
      modify fun state => { state with args := operands, line := 1 }
      discard <| runFile run .script octets
    else
      let path := operands.head?.getD []
      let state ← get
      match openForReading state path with
      | .error cause => Action.fail (openFailure false path cause)
      | .ok (stream, shared) =>
        let content := (shared.pending? stream).getD []
        modify fun state => { state with name := path, args := operands.drop 1, line := 1 }
        discard <| runFile run .script content

/-- Runs a tool. -/
def runTool (run : Runner) (tool : Tool) (args : List Bytes) : Action Unit := do
  Action.setStatus 0
  match tool with
  | .succeed => return
  | .fail => Action.setStatus 1
  | .cat => copyFiles (if args = [] then [[0x2D]] else args)
  | .shell => runShell run args

/-- Becomes a program, whose end is that of the process. -/
def become {α : Type} (run : Runner) (launch : Launch) : Action α := do
  runJobs run maxOrphans
  modify fun state =>
    { state with
      toProcess := state.toProcess.begin state state.exported launch.name, jobs := [] }
  let reason ← Action.attempt (runTool run launch.tool launch.args)
  let ended ← endProcess run reason
  runJobs run maxOrphans
  throw (.over ended)

/-- Becomes the program at a path, or says why that cannot be. -/
def becomeFile {α : Type} (run : Runner) (path name : Bytes) (args : List Bytes) :
    Action α := do
  let state ← get
  match state.shared.tree.launch state.directory path name args with
  | .ok launch => become run launch
  | .error cause =>
    -- A text without a mark in its first line is a script of the shell.
    if cause = .execFormat then become run ⟨.shell, ascii "/bin/sh", path :: args⟩
    let isMissing := cause = .noSuchEntry || cause = .notADirectory
    let reason :=
      if isMissing then "not found"
      else match cause with
        | .system errno => (IoError.description? errno.toInt).getD ""
        | .other text => text
    Action.complain (name ++ ascii (": " ++ reason))
    let isLost := isMissing || cause = .tooManyLinks || cause = .nameTooLong
    modify fun state => { state with status := if isLost then 127 else 126, trapStatus := none }
    throw .exit

/-- Becomes the program of a name, which is sought on the search path. -/
def becomeProgram {α : Type} (run : Runner) (searchPath name : Bytes)
    (args : List Bytes) : Action α := do
  match Builtin.findProgram (← get) searchPath name with
  | .program path => becomeFile run path name args
  | .missing isDenied =>
    Action.complain (Builtin.notFound name isDenied)
    modify fun state =>
      { state with status := if isDenied then 126 else 127, trapStatus := none }
    throw .exit

end Shell

end HostProvision
