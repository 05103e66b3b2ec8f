import HostProvision.Shell.Parser
import HostProvision.Shell.Signal

/-! # Scripts, traps and the ends of processes

Commands are carried out by a `Runner`, which everything here is given. A script is read and carried
out by one complete command at a time, traps are dealt with between commands, and a process that
ends carries out the trap for its end first. -/

namespace HostProvision

namespace Shell

/-- How a command is carried out. -/
structure Manner where
  /-- Whether somebody looks at its status, so that a failure does no harm. -/
  isTested : Bool := false
  /-- Whether its process does nothing after it. -/
  isLast : Bool := false
  deriving DecidableEq, Repr

/-- Carries commands out. -/
abbrev Runner : Type :=
  Manner → Command → Action Unit

/-- Where commands are read from. -/
inductive Origin where
  /-- The file with the script. -/
  | script
  /-- Another file. -/
  | file
  /-- A text. -/
  | text
  deriving DecidableEq, Repr

/-- Reads the next command. The lines of files may be shown. -/
def readNext (origin : Origin) (reader : Reader) :
    Action (Except String (Option Command) × Reader) := do
  let state ← get
  let (result, reader) := Reader.nextCommand { reader with
    aliases := state.aliases
    isEchoing := origin ≠ .text && state.has .verbose
    documentCount := state.documentCount }
  for line in reader.echoed.reverse do
    discard <| Action.write 2 (line.map octetOf)
  modify fun state => { state with
    readLine := reader.line
    scriptLine := if origin = .script then reader.line else state.scriptLine
    documents := reader.documents ++ state.documents
    documentCount := reader.documentCount }
  return (result, { reader with documents := [] })

/-- Carries out what a reader has left. The result is whether there was a command, before or now. -/
def runReader (run : Runner) (manner : Manner) (origin : Origin) :
    Nat → Bool → Reader → Action Bool
  | 0, _, _ => throw .stuck
  | fuel + 1, hadCommand, reader => do
    let (result, reader) ← readNext origin reader
    match result with
    | .error words =>
      modify fun state => { state with line := reader.line }
      Action.fail (ascii ("Syntax error: " ++ words))
    | .ok none => return hadCommand
    | .ok (some .skip) => runReader run manner origin fuel hadCommand reader
    | .ok (some command) =>
      let isAtEnd := reader.isPushedBack && reader.token = .endOfFile
      run { manner with isLast := manner.isLast && isAtEnd } command
      runReader run manner origin fuel true reader

/-- Carries out a text. The result is whether it held a command. -/
def runText (run : Runner) (manner : Manner) (text : Bytes) : Action Bool :=
  Action.mending (fun before after => { after with readLine := before.readLine }) <|
    runReader run manner .text (text.length + 2) false (Reader.ofText (charsOf text))

/-- Carries out the content of a file, which has no NUL. The result is whether it held a command. -/
def runFile (run : Runner) (origin : Origin) (content : Bytes) : Action Bool :=
  let text := content.filter (· ≠ 0)
  Action.mending (fun before after => { after with readLine := before.readLine }) <|
    runReader run {} origin (text.length + 2) false (Reader.ofText (charsOf text))

/-! ### Traps -/

/-- Carries out the traps for signals. The status before comes back afterwards, unless a trap leaves a
function with a status. -/
def runTraps (run : Runner) (status : Nat) : List Nat → Action Unit
  | [] => return
  | signal :: rest => do
    modify fun state => { state with received := state.received.filter (· ≠ signal) }
    let script := ((← get).traps.lookup signal).getD []
    let ended ← Action.attempt (discard <| runText run {} script)
    match ended with
    | none => Action.setStatus status
    | some (.leave _) | some (.again _) | some (.returned false) => Action.setStatus status
    | _ => pure ()
    Action.resume ended
    runTraps run status rest

/-- Deals with the signals that have been received. -/
def deliver (run : Runner) : Action Unit := do
  Action.receiveAll
  let state ← get
  if state.received.isEmpty then return
  let status := state.trapStatus.getD state.status
  let before := state.trapStatus
  modify fun state => { state with trapStatus := some status }
  let ended ← Action.attempt (runTraps run status state.received)
  match ended with
  | none | some (.leave _) | some (.again _) | some (.returned _) =>
    modify fun state => { state with trapStatus := before }
  | _ => pure ()
  Action.resume ended

/-- Exits if the last command failed and the shell was told to exit then. -/
def checkFailure (manner : Manner) : Action Unit := do
  let state ← get
  if !manner.isTested && state.status ≠ 0 && state.has .exitsOnFailure then
    modify fun state => { state with trapStatus := none }
    throw .exit

/-! ### Ends -/

/-- The status that a process breaks off with. -/
def breakStatus (reason : Option Break) : Action Nat := do
  let state ← get
  return match reason with
    | some .exit => state.trapStatus.getD state.status
    | _ => state.status

/-- Ends a process, given how it broke off. The trap for its end is carried out at most once. -/
def endProcess (run : Runner) (reason : Option Break) : Action Ended := do
  let finish (reason : Option Break) : Action Ended := do
    match reason with
    | some .stuck => throw .stuck
    | some (.killed signal) => return .killed signal
    | some (.over ended) => return ended
    | reason => return .exited ((← breakStatus reason) % 256)
  let script := ((← get).traps.lookup 0).getD []
  let skipsTrap := script.isEmpty || match reason with
    | some (.killed _) | some (.over _) | some .stuck => true
    | _ => false
  if skipsTrap then return ← finish reason
  let status ← breakStatus reason
  modify fun state => { state with
    status
    trapStatus := some status
    traps := state.traps.filter fun entry => entry.1 ≠ 0 }
  let ended ← Action.attempt (discard <| runText run {} script)
  match ended with
  | none | some (.leave _) | some (.again _) | some (.returned _) => return .exited (status % 256)
  | reason => finish reason

end Shell

end HostProvision
