import HostProvision.Shell.Builtin.Control

/-! # Commands about names

Variables are exported, locked, made local and unset; other names are those of aliases and
programs, which `alias`, `unalias`, `hash` and `type` are about. -/

namespace HostProvision

namespace Shell

namespace Builtin

/-- Marks variables, which may be assigned at the same time; without names shows those that have the
mark. -/
def declare (mark : Variable → Variable) (isMarked : Variable → Bool) : Builtin := fun args => do
  let (options, names) ← takeOptions [('p', false)] args
  if options ≠ [] || names = [] then
    let title := (← get).heading.getD []
    return ← showVariables (title ++ [0x20]) isMarked
  for arg in names do
    match arg.dropWhile (· ≠ 0x3D), (← get).binding? (nameOf arg) with
    | [], some binding => modify fun state => state.bind (nameOf arg) (some (mark binding))
    | [], none => Action.assignWith mark (← Action.nameIn arg) none
    | _ :: value, _ => Action.assignWith mark (← Action.nameIn arg) (some value)
  return 0

/-- Makes variables visible to other programs. -/
def exportAll : Builtin :=
  declare (fun binding => { binding with isExported := true }) (·.isExported)

/-- Locks variables. -/
def lock : Builtin :=
  declare (fun binding => { binding with isReadOnly := true }) (·.isReadOnly)

/-- Makes variables local to the function under way. -/
def makeLocal : Builtin := fun args => do
  if (← get).frames.isEmpty then Action.fail (ascii "not in a function")
  for arg in args do
    match arg.dropWhile (· ≠ 0x3D) with
    | [] =>
      if arg = ascii "-" then Action.save (.toggles (← get).toggles)
      else
        if ((← get).binding? (nameOf arg)).isNone then discard <| Action.nameIn arg
        Action.makeLocal id (nameOf arg) none
    | _ :: value =>
      Action.makeLocal id (nameOf (arg.takeWhile (· ≠ 0x3D))) (some value)
  return 0

/-- Unsets variables, or functions. -/
def unset : Builtin := fun args => do
  let (options, names) ← takeOptions [('v', false), ('f', false)] args
  let isFunction := options.getLast?.any fun option => option.1 = 'f'
  for arg in names do
    if isFunction then
      modify fun state =>
        { state with functions := state.functions.filter fun entry => entry.1 ≠ nameOf arg }
    else Action.remove (← Action.nameIn arg)
  return 0

/-! ### Other names -/

/-- The place of a name among a number of places: names are shown by these places. -/
def bucket (count : Nat) (name : Bytes) : Nat :=
  (16 * (name.head?.getD 0).toNat + name.foldl (fun sum octet => sum + octet.toNat) 0) % count

/-- Names in the order in which they are shown. -/
def inBuckets {α : Type} (count : Nat) (entries : List (String × α)) : List (String × α) :=
  entries.mergeSort fun a b => bucket count (octetsOf a.1) ≤ bucket count (octetsOf b.1)

/-- An alias as it is shown. -/
def shownAlias (name : String) (value : List Char) : Bytes :=
  octetsOf name ++ 0x3D :: quoted (value.map octetOf) ++ [0x0A]

/-- Defines aliases, or shows them. -/
def setAliases : Builtin := fun args => do
  if args = [] then
    let shown := inBuckets 39 (← get).aliases
    return ← say (shown.flatMap fun (name, value) => shownAlias name value) 0
  let mut lines := []
  let mut status := 0
  for arg in args do
    let name := arg.take 1 ++ (arg.drop 1).takeWhile (· ≠ 0x3D)
    match arg.drop name.length, (← get).aliases.lookup (nameOf name) with
    | [], some value => lines := lines ++ shownAlias (nameOf name) value
    | [], none =>
      discard <| Action.write 2 (ascii "alias: " ++ name ++ ascii " not found\n")
      status := 1
    | _ :: value, before =>
      let value := charsOf value
      modify fun state =>
        let aliases := match before with
          | some _ => state.aliases.map fun entry =>
            if entry.1 = nameOf name then (entry.1, value) else entry
          | none => state.aliases ++ [(nameOf name, value)]
        { state with aliases }
  say lines status

/-- Forgets aliases. -/
def unalias : Builtin := fun args => do
  let (options, names) ← takeOptions [('a', false)] args
  if options ≠ [] then
    modify fun state => { state with aliases := [] }
    return 0
  let mut status := 0
  for name in names do
    if ((← get).aliases.lookup (nameOf name)).isNone then
      discard <| Action.write 2 (ascii "unalias: " ++ name ++ ascii " not found\n")
      status := 1
    modify fun state =>
      { state with aliases := state.aliases.filter fun entry => entry.1 ≠ nameOf name }
  return status

/-! ### Programs -/

/-- Where a program is found. -/
inductive Found where
  /-- At a path. -/
  | program (path : Bytes)
  /-- Nowhere, or only where it cannot be executed. -/
  | missing (isDenied : Bool)
  deriving DecidableEq, Repr

/-- The search path of a shell. -/
def searchPath (state : State) : Bytes :=
  state.valueOf "PATH"

/-- The path that a standard program is found by. -/
def standardPath : Bytes :=
  ascii "/usr/local/sbin:/usr/local/bin:/usr/sbin:/usr/bin:/sbin:/bin"

/-- Finds a program on a search path: the first regular file of its name that may be executed. -/
def findProgram (state : State) (path name : Bytes) : Found :=
  if name.contains Path.slash then .program name
  else
    let candidates := (SearchPath.entries path).map fun entry =>
      if entry = [] then name else entry ++ Path.slash :: name
    let isExecutable (path : Bytes) : Bool :=
      (state.shared.tree.executable? state.directory path).isSome
    match candidates.find? isExecutable with
    | some path => .program path
    | none => .missing (candidates.any fun path =>
      match state.find path with
      | .ok (.present ..) => true
      | .error cause => cause ≠ .noSuchEntry && cause ≠ .notADirectory
      | .ok (.free _) => false)

/-- Remembers the place of a program that is sought on the search path. -/
def remember (name : Bytes) : Action Unit :=
  modify fun state =>
    if name.contains Path.slash then state
    else
      let others := state.hashed.filter fun entry => entry.1 ≠ nameOf name
      { state with hashed := others ++ [(nameOf name, false)] }

/-- The words for a program that is not found. -/
def notFound (name : Bytes) (isDenied : Bool) : Bytes :=
  name ++ ascii (if isDenied then ": Permission denied" else ": not found")

/-- The names of the shell's own commands. -/
def names : List String :=
  [".", ":", "[", "alias", "bg", "break", "cd", "chdir", "command", "continue", "echo", "eval",
   "exec", "exit", "export", "false", "fg", "getopts", "hash", "jobs", "kill", "local", "printf",
   "pwd", "read", "readonly", "return", "set", "shift", "test", "times", "trap", "true", "type",
   "ulimit", "umask", "unalias", "unset", "wait"]

/-- Remembers the places of programs, or shows those that are remembered. -/
def hash : Builtin := fun args => do
  let (options, names) ← takeOptions [('r', false)] args
  if options ≠ [] then
    modify fun state => { state with hashed := [] }
    return 0
  let state ← get
  if names = [] then
    let line (entry : String × Bool) : Bytes :=
      match findProgram state (searchPath state) (octetsOf entry.1) with
      | .program path => path ++ (if entry.2 then [0x2A] else []) ++ [0x0A]
      | .missing _ => []
    return ← say ((inBuckets 31 state.hashed).flatMap line) 0
  let mut status := 0
  for name in names do
    let text := nameOf name
    modify fun state =>
      { state with hashed := state.hashed.filter fun entry => entry.1 ≠ text }
    unless Builtin.names.contains text || (state.functions.lookup text).isSome do
      match findProgram state (searchPath state) name with
      | .program path =>
        if name.contains Path.slash then
          let isThere := match state.find path with
            | .ok (.present ..) => true
            | _ => false
          unless isThere do
            Action.complain (notFound name false)
            status := 1
        remember name
      | .missing isDenied =>
        Action.complain (notFound name isDenied)
        status := 1
  return status

/-- What a name stands for as a command, in words or as the command itself; with the status of the
answer. -/
def describe (state : State) (inWords : Bool) (path? : Option Bytes) (name : Bytes) : Bytes × Nat :=
  let text := nameOf name
  let known (words : String) : Bytes × Nat :=
    (name ++ (if inWords then ascii words else []) ++ [0x0A], 0)
  if (Reserved.ofSpelling? text).isSome then known " is a shell keyword"
  else match state.aliases.lookup text with
    | some value =>
      if inWords then (name ++ ascii " is an alias for " ++ value.map octetOf ++ [0x0A], 0)
      else (ascii "alias " ++ shownAlias text value, 0)
    | none =>
      if (state.functions.lookup text).isSome && !Command.specialNames.contains text then
        known " is a shell function"
      else if Command.specialNames.contains text then known " is a special shell builtin"
      else if names.contains text then known " is a shell builtin"
      else
        let isHashed := path?.isNone && state.hashed.any fun entry => entry.1 = text
        let isThere (path : Bytes) : Bool := match state.find path with
          | .ok (.present ..) => true
          | _ => false
        match findProgram state (path?.getD (searchPath state)) name with
        | .program path =>
          if !isThere path then ((if inWords then notFound name false ++ [0x0A] else []), 127)
          else if inWords then
            (name ++ ascii (if isHashed then " is a tracked alias for " else " is ") ++ path ++
              [0x0A], 0)
          else (path ++ [0x0A], 0)
        | .missing _ => ((if inWords then notFound name false ++ [0x0A] else []), 127)

/-- Tells what names stand for. -/
def type : Builtin := fun args => do
  let state ← get
  let answers := args.map (describe state true none)
  say (answers.flatMap Prod.fst) (answers.foldl (fun status answer => status ||| answer.2) 0)

end Builtin

end Shell

end HostProvision
