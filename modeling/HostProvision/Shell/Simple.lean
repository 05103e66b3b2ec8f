import HostProvision.Shell.Builtin.Directory
import HostProvision.Shell.Builtin.Input
import HostProvision.Shell.Builtin.Signals
import HostProvision.Shell.Program
import HostProvision.Shell.Test

/-! # Simple commands

A simple command is expanded, its redirections and assignments are carried out, and then the first of
its words says what is done: a function, a command of the shell or a program. What goes wrong in a
special command of the shell ends the shell; in any other command of its own it ends that command. -/

namespace HostProvision

namespace Shell

/-- What the name of a command stands for. -/
inductive Role where
  /-- A function. -/
  | function (body : Command)
  /-- A command of the shell. -/
  | builtin (name : String)
  /-- A program. -/
  | program
  deriving Inhabited

/-- What the name of a command stands for; functions may be passed over. -/
def roleOf (state : State) (skipsFunctions : Bool) (name : Bytes) : Role :=
  let text := nameOf name
  let function? :=
    if skipsFunctions || Command.specialNames.contains text then none
    else state.functions.lookup text
  match function? with
  | some body => .function body
  | none => if Builtin.names.contains text then .builtin text else .program

/-- The shell's own commands whose arguments may be assignments. -/
def assigningNames : List String :=
  ["alias", "export", "local", "readonly"]

/-- The words of a simple command under expansion. -/
structure Words where
  /-- The texts so far. -/
  texts : List Bytes := []
  /-- The words that are left. -/
  rest : List Word
  /-- Whether functions are passed over. -/
  skipsFunctions : Bool := false
  /-- The search path, if it is not that of the shell. -/
  searchPath : Option Bytes := none
  /-- The name of the first command of the shell, if there is one before any other. -/
  first : Option String := none
  /-- What the command stands for. -/
  role : Role := .program

section

variable (output : Command → Action Bytes)

/-- Expands words until there is another text. -/
def expandMore (before : List Bytes) : List Word → Action (List Bytes × List Word)
  | [] => return (before, [])
  | word :: rest => do
    let texts ← expandWord output word
    if texts = [] then expandMore before rest else return (before ++ texts, rest)

/-- The texts after the options of `command` that say how a name is sought, or none if there are
other options or no name. -/
def seekName : Nat → Option Bytes → Nat → Words → Action (Option Words × Words)
  | 0, _, _, words => return (none, words)
  | fuel + 1, searchPath, index, words => do
    let words ←
      if index < words.texts.length then pure words
      else do
        let (texts, rest) ← expandMore output words.texts words.rest
        pure { words with texts, rest }
    let found (words : Words) (index : Nat) : Words :=
      { words with texts := words.texts.drop index, skipsFunctions := true, searchPath }
    match words.texts[index]? with
    | none => return (none, words)
    | some [0x2D, 0x2D] =>
      let words ←
        if index + 1 < words.texts.length then pure words
        else do
          let (texts, rest) ← expandMore output words.texts words.rest
          pure { words with texts, rest }
      if index + 1 < words.texts.length then return (some (found words (index + 1)), words)
      else return (none, words)
    | some (0x2D :: letter :: letters) =>
      if (letter :: letters).all (· = 0x70) then
        seekName fuel (some Builtin.standardPath) (index + 1) words
      else return (none, words)
    | some _ => return (some (found words index), words)

/-- Finds out what a command stands for, passing over `command`. -/
def seekRole : Nat → Words → Action Words
  | 0, words => return words
  | fuel + 1, words => do
    match words.texts with
    | [] => return words
    | name :: _ =>
      let role := roleOf (← get) words.skipsFunctions name
      match role with
      | .builtin text =>
        let words := { words with role, first := words.first.or (some text) }
        if text ≠ "command" then return words
        match ← seekName output (words.rest.length + words.texts.length + 1) words.searchPath 1 words with
        | (some found, _) => seekRole fuel found
        | (none, words) => return words
      | role => return { words with role, first := words.first.or (some "") }

/-- Expands the words of a simple command. Where assignments are arguments, they are expanded as
such. -/
def expandCommand (words : List Word) : Action Words := do
  let (texts, rest) ← expandMore output [] words
  let found ← seekRole output (words.length + 1) { texts, rest }
  let assigns := match found.role with
    | .builtin name => assigningNames.contains name
    | _ => false
  let mut texts := found.texts
  for word in found.rest do
    match if assigns then assignment? word else none with
    | some (name, value) =>
      texts := texts ++ [octetsOf name ++ 0x3D :: (← expandValue output value)]
    | none => texts := texts ++ (← expandWord output word)
  return { found with texts, rest := [] }

end

/-! ### Traces -/

/-- The text before each line of a trace. -/
def traceStart (output : Command → Action Bytes) : Action Bytes := do
  let state ← get
  let text := state.valueOf "PS4"
  let reading : Reading Word := readParts (nestedAt Reader.maxNesting) Reading.maxLength .document 0 {}
  match (reading.run.run (Reader.ofText (charsOf text))).1 with
  | .ok word =>
    modify fun state => { state with isTracing := true }
    let octets ← expandDocument output word
    modify fun state => { state with isTracing := false }
    return octets
  | .error _ => return text

/-- Shows a command that is about to be carried out. -/
def trace (output : Command → Action Bytes) (assigned : List (String × Bytes))
    (texts : List Bytes) : Action Unit := do
  let state ← get
  if !state.has .traces || state.isTracing then return
  let start ← traceStart output
  let parts := assigned.map (fun (name, value) => octetsOf name ++ 0x3D :: value) ++ texts
  discard <| Action.write 2 (start ++ Printing.joined parts ++ [0x0A])

/-! ### Functions -/

/-- How many functions may be under way. -/
def maxCalls : Nat := 1000

/-- Carries a function out. -/
def callFunction (run : Runner) (manner : Manner) (body : Command) (args : List Bytes) :
    Action Unit := do
  if maxCalls ≤ (← get).calls then
    Action.fail (ascii "Maximum function recursion depth (1000) reached")
  let restored (before after : State) : State :=
    { after with
      args := before.args, calls := before.calls, loops := before.loops
      optionIndex := before.optionIndex, optionOffset := before.optionOffset }
  let ended ← Action.mending restored do
    modify fun state => { state with
      args, calls := state.calls + 1, loops := 0, optionIndex := 1, optionOffset := none }
    Action.attempt (run { isTested := manner.isTested } body)
  match ended with
  | some (.returned _) => return
  | ended => Action.resume ended

/-! ### Commands of the shell that run others -/

/-- Carries its arguments out as a script. -/
def evalText (run : Runner) (manner : Manner) : Builtin := fun args => do
  let hadCommand ← runText run { isTested := manner.isTested } (Printing.joined args)
  let state ← get
  return if hadCommand then state.status else 0

/-- Carries a file out as a part of the script. -/
def includeFile (run : Runner) : Builtin := fun args => do
  match ← Builtin.withoutOptions args with
  | [] => return 0
  | file :: _ =>
    let state ← get
    let path ←
      if file.contains Path.slash then pure file
      else do
        let candidates := (SearchPath.entries (Builtin.searchPath state)).map fun entry =>
          if entry = [] then file else entry ++ Path.slash :: file
        let isFile (path : Bytes) : Bool := match state.find path with
          | .ok (.present _ (.file ..)) | .ok (.present _ (.tool _)) => true
          | _ => false
        match candidates.find? isFile with
        | some path => pure path
        | none => Action.fail (file ++ ascii ": not found")
    match openForReading state path with
    | .error cause => Action.fail (openFailure false path cause)
    | .ok (stream, shared) =>
      let content := (shared.pending? stream).getD []
      modify fun state => { state with heading := some path }
      let mut hadCommand := true
      let ended ← Action.attempt do
        unless ← runFile run .file content do Action.setStatus 0
      match ended with
      | some (.returned _) => hadCommand := true
      | ended => Action.resume ended
      return (← get).status

/-- Tells what names stand for, or does nothing. -/
def tellCommand : Builtin := fun args => do
  let (options, names) ← Builtin.takeOptions [('p', false), ('v', false), ('V', false)] args
  let has (letter : Char) : Bool := options.any fun option => option.1 = letter
  match names with
  | name :: _ =>
    if !has 'v' && !has 'V' then return 0
    let path? := if has 'p' then some Builtin.standardPath else none
    let (words, status) := Builtin.describe (← get) (has 'V') path? name
    Builtin.say words status
  | [] => return 0

/-- Waits for jobs: those that are named, or all. -/
def waitForJobs (run : Runner) : Builtin := fun args => do
  let names ← Builtin.withoutOptions args
  if names ≠ [] then return ← waitForAll run 127 names
  for job in (← get).jobs.reverse do
    discard <| runJob run (runJobs run maxOrphans) job
  modify fun state =>
    { state with jobs := state.jobs.map fun job => { job with isKnown := true } }
  return 0

/-- Answers a test. -/
def answerTest (args : List Bytes) : Action Nat := do
  match Test.answer (← get) args with
  | .ok holds => return Builtin.answerStatus holds
  | .error words => Action.fail words

/-- Becomes a program, if one is named. -/
def becomeNamed (run : Runner) : Builtin := fun args => do
  match args with
  | [] => return 0
  | name :: args => becomeProgram run (Builtin.searchPath (← get)) name args

/-- Carries a command of the shell out, given its name. -/
def performBuiltin (run : Runner) (manner : Manner) (name : String) : Builtin :=
  match name with
  | ":" | "true" => Builtin.nothing 0
  | "false" => Builtin.nothing 1
  | "." => includeFile run
  | "[" => fun args =>
    match args.getLast? with
    | some (0x5D :: _) => answerTest args.dropLast
    | _ => Action.fail (ascii "missing ]")
  | "test" => answerTest
  | "alias" => Builtin.setAliases
  | "bg" | "fg" => Builtin.resumeJob
  | "break" => Builtin.leaveLoops .leave
  | "cd" | "chdir" => Builtin.changeDirectory
  | "command" => tellCommand
  | "continue" => Builtin.leaveLoops .again
  | "echo" => Builtin.echo
  | "eval" => evalText run manner
  | "exec" => becomeNamed run
  | "exit" => Builtin.exit
  | "export" => Builtin.exportAll
  | "getopts" => Builtin.getopts
  | "hash" => Builtin.hash
  | "jobs" => Builtin.jobs
  | "kill" => Builtin.kill
  | "local" => Builtin.makeLocal
  | "printf" => Builtin.printf
  | "pwd" => Builtin.tellDirectory
  | "read" => Builtin.read
  | "readonly" => Builtin.lock
  | "return" => Builtin.leaveFunction
  | "set" => Builtin.configure
  | "shift" => Builtin.shift
  | "times" => Builtin.times
  | "trap" => Builtin.trap
  | "type" => Builtin.type
  | "ulimit" => Builtin.limit
  | "umask" => Builtin.fileMask
  | "unalias" => Builtin.unalias
  | "unset" => Builtin.unset
  | "wait" => waitForJobs run
  | _ => Builtin.nothing 127

/-- Does something under the name of a command of the shell, for complaints. -/
def headed (name : Bytes) (action : Action Unit) : Action Unit :=
  Action.mending (fun before after => { after with heading := before.heading }) do
    modify fun state => { state with heading := some name }
    action

/-! ### Simple commands as a whole -/

/-- Carries a program out in a process of its own, or in this one if nothing comes after it. -/
def performProgram (run : Runner) (manner : Manner) (searchPath : Bytes) (name : Bytes)
    (args : List Bytes) : Action Unit := do
  let state ← get
  match Builtin.findProgram state searchPath name with
  | .missing isDenied =>
    Action.complain (Builtin.notFound name isDenied)
    Action.setStatus 127
  | .program path =>
    Builtin.remember name
    let hasTraps := state.traps.any fun entry => !entry.2.isEmpty
    if manner.isLast && !hasTraps then becomeFile run path name args
    waitFor run (becomeFile run path name args)

/-- Carries out what the words of a command stand for. -/
def performWords (run : Runner) (manner : Manner) (words : Words) : Action Unit := do
  match words.texts with
  | [] => Action.setStatus (← get).outputStatus
  | name :: args =>
    match roleOf (← get) words.skipsFunctions name with
    | .function body => callFunction run manner body args
    | .builtin text =>
      let isSpecial := (words.first.getD "") ≠ "" && Command.specialNames.contains (words.first.getD "")
      let ended ← Action.attempt <| headed name do
        Action.setStatus (← performBuiltin run manner text args)
      match ended with
      | some .error => if isSpecial then throw .error
      | ended => Action.resume ended
    | .program =>
      let searchPath := words.searchPath.getD (Builtin.searchPath (← get))
      performProgram run manner searchPath name args

/-- Carries out assignments, which may hold for one command alone. The result is what has been
assigned. -/
def performAssignments (output : Command → Action Bytes) (isOwn exports : Bool) :
    List (String × Word) → Action (List (String × Bytes))
  | [] => return []
  | (name, word) :: rest => do
    let value ← expandValue output word
    let exported (binding : Variable) : Variable := { binding with isExported := true }
    if isOwn then Action.makeLocal exported name (some value)
    else Action.assignWith (if exports then exported else id) name (some value)
    let more ← performAssignments output isOwn exports rest
    return (name, value) :: more

/-- Carries a simple command out. -/
def performSimple (run : Runner) (manner : Manner) (line : Nat)
    (assignments : List (String × Word)) (words : List Word) (redirections : List Redirection) :
    Action Unit := do
  let output := substitute run
  modify fun state => { state with line, outputStatus := 0 }
  let words ← expandCommand output words
  let first := words.first.getD ""
  let isSpecial := Command.specialNames.contains first
  let isOwn := words.first.isSome && !isSpecial
  let isExec := match words.role with
    | .builtin "exec" => true
    | _ => false
  let keepsDescriptors := isExec && words.texts.length ≤ 1
  let perform : Action Unit := do
    let before ← get
    let connections ← expandTargets output redirections
    let isConnected ← connected output connections
    if !isConnected then
      if isSpecial then throw .error
    else
      let assigned ← performAssignments output isOwn (isExec && 1 < words.texts.length) assignments
      let after ← get
      -- A trace goes where diagnostics went before the redirections.
      modify fun state => { state with descriptors := before.descriptors }
      trace output assigned words.texts
      modify fun state => { state with descriptors := after.descriptors }
      performWords run manner words
  let perform := if keepsDescriptors then perform else keepingDescriptors redirections perform
  if isOwn then Action.inFrame perform else perform

end Shell

end HostProvision
