import HostProvision.Shell.Reader
import HostProvision.Shell.Stream

/-! # The state of a shell

A `Process` is what a running shell has for itself: its variables, functions, arguments, traps and
descriptors. A part of a script that runs in a process of its own works on a copy of it. A `State`
adds what all processes have in common and the jobs that the process has started. An `Action`
changes a state and may break off what the shell is doing. -/

namespace HostProvision

namespace Shell

open Host (FileTree Location)

/-- The octets of a text. -/
abbrev ascii (text : String) : Bytes :=
  Utf8.encode text

/-- The name that octets spell. -/
def nameOf (octets : Bytes) : String :=
  String.ofList (charsOf octets)

/-- The octets that spell a name. -/
def octetsOf (name : String) : Bytes :=
  name.toList.map octetOf

/-- Octets spell the name that they come from. -/
@[simp] theorem octetsOf_nameOf (octets : Bytes) : octetsOf (nameOf octets) = octets := by
  simp [octetsOf, nameOf]

/-! ### Parts of the state -/

/-- An option of a shell. -/
inductive Toggle where
  /-- The shell exits when a command fails. -/
  | exitsOnFailure
  /-- Patterns stand for themselves. -/
  | noPatterns
  /-- The end of the input does not end the shell. -/
  | ignoresEnd
  /-- The shell talks to a person. -/
  | interactive
  /-- Jobs are controlled by a terminal. -/
  | monitor
  /-- Commands are read, but not carried out. -/
  | noCommands
  /-- The script is read from the input. -/
  | fromInput
  /-- Commands are shown when they are carried out. -/
  | traces
  /-- Lines are shown when they are read. -/
  | verbose
  /-- Lines are edited in one way. -/
  | viEditing
  /-- Lines are edited in another way. -/
  | emacsEditing
  /-- Files are not overwritten. -/
  | keepsFiles
  /-- All variables are exported. -/
  | exportsAll
  /-- The end of a job is announced at once. -/
  | notifies
  /-- Unset variables are errors. -/
  | refusesUnset
  /-- The shell has rights that its user does not have. -/
  | privileged
  /-- Functions are not remembered. -/
  | noLog
  /-- The shell shows its own working. -/
  | debugs
  deriving DecidableEq, Repr

namespace Toggle

/-- All options in order, with their names and letters. -/
def table : List (Toggle × String × Option Char) :=
  [(exitsOnFailure, "errexit", some 'e'), (noPatterns, "noglob", some 'f'),
   (ignoresEnd, "ignoreeof", some 'I'), (interactive, "interactive", some 'i'),
   (monitor, "monitor", some 'm'), (noCommands, "noexec", some 'n'),
   (fromInput, "stdin", some 's'), (traces, "xtrace", some 'x'), (verbose, "verbose", some 'v'),
   (viEditing, "vi", some 'V'), (emacsEditing, "emacs", some 'E'),
   (keepsFiles, "noclobber", some 'C'), (exportsAll, "allexport", some 'a'),
   (notifies, "notify", some 'b'), (refusesUnset, "nounset", some 'u'),
   (privileged, "privileged", some 'p'), (noLog, "nolog", none), (debugs, "debug", none)]

/-- The option of a letter. -/
def ofLetter? (letter : Char) : Option Toggle :=
  (table.find? fun (_, _, known) => known = some letter).map Prod.fst

/-- The option of a name. -/
def ofName? (name : String) : Option Toggle :=
  (table.find? fun (_, known, _) => known = name).map Prod.fst

end Toggle

/-- A variable. -/
structure Variable where
  /-- Its value, if it is set. -/
  value : Option Bytes := none
  /-- Whether other programs see it. -/
  isExported : Bool := false
  /-- Whether its value cannot change. -/
  isReadOnly : Bool := false
  /-- Whether it stays known when it is unset. -/
  isLasting : Bool := false
  deriving DecidableEq, Repr

/-- What is brought back when a function ends. -/
inductive Saved where
  /-- A variable, or that there is none. -/
  | variable (name : String) (before : Option Variable)
  /-- The options. -/
  | toggles (before : List Toggle)
  deriving DecidableEq, Repr

/-- How a process ended. -/
inductive Ended where
  /-- With an exit status. -/
  | exited (status : Nat)
  /-- By a signal. -/
  | killed (signal : Nat)
  deriving DecidableEq, Repr

/-- The status by which a shell knows how a process ended. -/
def Ended.status : Ended → Nat
  | exited status => status
  | killed signal => 128 + signal

/-- What a running shell has for itself. -/
structure Process where
  /-- The number of the process. -/
  number : Nat
  /-- The number of the process that started the process. -/
  parent : Nat
  /-- The number of the process that carries the whole script out. -/
  script : Nat
  /-- The working directory. -/
  directory : Location
  /-- The path by which the working directory was reached. -/
  path : Bytes
  /-- The variables. -/
  bindings : List (String × Variable)
  /-- The name of the script. -/
  name : Bytes
  /-- The arguments of the script, or of the function under way. -/
  args : List Bytes := []
  /-- The functions. -/
  functions : List (String × Command) := []
  /-- What is done on a signal, or on 0 at the end; nothing stands for paying no regard to it. -/
  traps : List (Nat × Bytes) := []
  /-- The signals that have been received and not dealt with, in order. -/
  received : List Nat := []
  /-- The signals of no regard from the beginning. -/
  ignored : List Nat := []
  /-- The options that are set. -/
  toggles : List Toggle := []
  /-- What is brought back at the end of each command under way that has variables of its own, the
  innermost first. -/
  frames : List (List Saved) := []
  /-- How many loops are under way. -/
  loops : Nat := 0
  /-- How many functions are under way. -/
  calls : Nat := 0
  /-- The line of the current command. -/
  line : Nat := 1
  /-- The line up to which the text under way has been read. -/
  readLine : Nat := 1
  /-- The line up to which the file with the script has been read. -/
  scriptLine : Nat := 1
  /-- The name of the shell's own command under way. -/
  heading : Option Bytes := none
  /-- The exit status of the last command. -/
  status : Nat := 0
  /-- The exit status of the last command substitution in the current command. -/
  outputStatus : Nat := 0
  /-- The exit status before a trap that is under way, or the one to exit with. -/
  trapStatus : Option Nat := none
  /-- The streams of the descriptors that are open. -/
  descriptors : List (Nat × Stream)
  /-- The aliases. -/
  aliases : List (String × List Char) := []
  /-- The programs whose places are remembered, each with whether the place may have changed. -/
  hashed : List (String × Bool) := []
  /-- The texts that stand in the script, by their places. -/
  documents : List (Nat × Word) := []
  /-- The number of texts so far. -/
  documentCount : Nat := 0
  /-- The number of the last process in the background. -/
  background : Option Nat := none
  /-- The place of the next argument to be looked at for options. -/
  optionIndex : Nat := 1
  /-- The place of the next letter in an argument with options. -/
  optionOffset : Option Nat := none
  /-- The rights that new files do not get. -/
  fileMask : Nat := 0o022
  /-- Whether a trace is being written. -/
  isTracing : Bool := false

/-- A process that a shell has started and not waited for. -/
structure Job where
  /-- Its number among the jobs. -/
  number : Nat
  /-- The number of its process. -/
  process : Nat
  /-- What it does, and from which state, if it has not begun. -/
  start : Option (Command × Process)
  /-- How it ended, if it did. -/
  ended : Option Ended := none
  /-- Whether its end has been asked for. -/
  isKnown : Bool := false

/-- The state of a shell. -/
structure State extends Process where
  /-- What all processes have in common. -/
  shared : Shared
  /-- The jobs, the last one first. -/
  jobs : List Job := []

/-- Why a shell breaks off what it is doing. -/
inductive Break where
  /-- The shell exits. -/
  | exit
  /-- Something is wrong, which ends the shell unless a command of its own is at fault. -/
  | error
  /-- A signal ends the shell. -/
  | killed (signal : Nat)
  /-- A program that the shell became is over. -/
  | over (ended : Ended)
  /-- Some enclosing loops are left. -/
  | leave (levels : Nat)
  /-- Some enclosing loops are left and the last of them goes on. -/
  | again (levels : Nat)
  /-- A function is left, with a status of its own or not. -/
  | returned (hasStatus : Bool)
  /-- There were not enough steps. -/
  | stuck
  deriving DecidableEq, Repr

/-- Something that a shell does. -/
abbrev Action (α : Type) : Type :=
  ExceptT Break (StateM State) α

namespace State

/-- Whether an option is set. -/
def has (state : State) (toggle : Toggle) : Bool :=
  state.toggles.contains toggle

/-- The letters of the options that are set. -/
def letters (state : State) : String :=
  String.ofList (Toggle.table.reverse.filterMap fun (toggle, _, letter) =>
    if state.has toggle then letter else none)

/-- Connects a descriptor, or closes it. -/
def connect (state : State) (descriptor : Nat) (stream : Option Stream) : State :=
  let others := state.descriptors.filter fun entry => entry.1 ≠ descriptor
  { state with
    descriptors := (stream.map fun stream => (descriptor, stream)).toList ++ others }

/-- A descriptor that has just been connected leads to its stream. -/
@[simp] theorem lookup_connect (state : State) (descriptor : Nat) (stream : Stream) :
    (state.connect descriptor (some stream)).descriptors.lookup descriptor = some stream := by
  simp [connect]

/-- The path of the working directory without links. -/
def physicalPath (state : State) : Bytes :=
  Path.below [Path.slash] (state.directory.map .name)

/-- Where a path leads. -/
def find (state : State) (path : Bytes) : Except IoError FileTree.Place :=
  state.shared.tree.find state.directory path

end State

namespace Action

variable {α : Type}

/-- Sets the exit status. -/
def setStatus (status : Nat) : Action Unit :=
  modify fun state => { state with status }

/-- Prints octets on a descriptor. The result is whether it takes them. A process whose octets nobody
reads ends. -/
def write (descriptor : Nat) (octets : Bytes) : Action Bool := do
  let state ← get
  match state.descriptors.lookup descriptor with
  | none => return false
  | some stream =>
    match state.shared.write stream octets with
    | .ok shared =>
      set { state with shared }
      return true
    | .error .refused => return false
    | .error .unread => throw (.killed 13)

/-- Complains on the diagnostics, with the name of the script, the line and the name of the shell's
own command under way. -/
def complain (words : Bytes) : Action Unit := do
  let state ← get
  let heading := match state.heading with
    | some heading => heading ++ ascii ": "
    | none => []
  let place := state.name ++ ascii (": " ++ toString state.line ++ ": ") ++ heading
  discard <| write 2 (place ++ words ++ ascii "\n")

/-- Complains and breaks off. -/
def fail (words : Bytes) : Action α := do
  complain words
  setStatus 2
  throw .error

/-- Does something and tells how it broke off, if it did. -/
def attempt (action : Action Unit) : Action (Option Break) :=
  ExceptT.mk do
    match ← action.run with
    | .ok () => return .ok none
    | .error reason => return .ok (some reason)

/-- Does something and then mends the state, given the state before, even if it breaks off. -/
def mending (mend : State → State → State) (action : Action α) : Action α :=
  ExceptT.mk do
    let before ← get
    let result ← action.run
    modify (mend before)
    return result

/-- Breaks off again for a reason, if there is one. -/
def resume : Option Break → Action Unit
  | some reason => throw reason
  | none => return

/-- Does something again and again for as long as it asks for that. -/
def repeatWhile : Nat → Action Bool → Action Unit
  | 0, _ => throw .stuck
  | fuel + 1, action => do
    if ← action then repeatWhile fuel action

/-- How often something may be repeated. -/
def maxRepetitions : Nat := 1000000000

end Action

end Shell

end HostProvision
