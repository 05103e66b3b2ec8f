import HostProvision.Shell.Redirect
import HostProvision.Shell.Script

/-! # Processes inside a shell

Subshells, the commands of pipelines, command substitutions and jobs run in processes of their own: on
a copy of the process, of which nothing comes back but what all processes have in common. Of two
commands in a pipeline the first is over before the second begins. A job begins when somebody waits
for it, or at the end of the process that started it. -/

namespace HostProvision

namespace Shell

/-- What of a process a new one takes over. -/
def Process.fork (process : Process) (number : Nat) : Process :=
  { process with
    number
    parent := process.number
    readLine := process.scriptLine
    traps := process.traps.filter fun entry => entry.2.isEmpty
    received := [] }

/-- A number for a new process. -/
def newProcess : Action Nat := do
  let state ← get
  let number := state.shared.lastProcess + 1
  set { state with
    shared := { state.shared with lastProcess := number, live := number :: state.shared.live } }
  return number

/-- Has it that a process is over. -/
def bury (number : Nat) : Action Unit :=
  modify fun state => { state with shared := { state.shared with
    live := state.shared.live.filter (· ≠ number)
    signals := state.shared.signals.filter fun sent => sent.1 ≠ number } }

/-- Runs a process on a state of its own, and the jobs that it leaves behind. Afterwards the state is
as before, but for what all processes have in common. -/
def inProcess (run : Runner) (runJobs : Action Unit) (process : Process) (body : Action Unit) :
    Action Ended := do
  let before ← get
  set { before with toProcess := process, jobs := [] }
  let ended ← ExceptT.mk (m := StateM State) do
    let result ← (do
      let reason ← Action.attempt body
      let ended ← endProcess run reason
      runJobs
      return ended : Action Ended).run
    -- The streams that the process has opened are closed.
    modify fun after =>
      { before with shared := after.shared.forget before.shared.numberCount [] }
    return result
  bury process.number
  Action.receive 17
  return ended

/-- Runs a job that has not begun, and notes how it ends. -/
def runJob (run : Runner) (runJobs : Action Unit) (job : Job) : Action Ended := do
  match job.ended, job.start with
  | some ended, _ => return ended
  | none, none => return .exited 0
  | none, some (command, process) =>
    let note (ended : Ended) : Action Unit :=
      modify fun state => { state with jobs := state.jobs.map fun known =>
        if known.process = job.process then { known with ended := some ended, start := none }
        else known }
    let sent := (← get).shared.signals.filter fun sent => sent.1 = job.process
    match sent.reverse.find? fun sent => process.regard sent.2 = .ends with
    | some (_, signal) =>
      bury job.process
      note (.killed signal)
      return .killed signal
    | none =>
      let ended ← inProcess run runJobs process (run { isLast := true } command)
      note ended
      return ended

/-- How deep jobs may leave jobs behind. -/
def maxOrphans : Nat := 100

/-- Runs the jobs that have not begun. -/
def runJobs (run : Runner) : Nat → Action Unit
  | 0 => return
  | depth + 1 => do
    for job in (← get).jobs.reverse do
      discard <| runJob run (runJobs run depth) job

/-- Runs a process inside the shell that goes on from the state of the shell. -/
def inChild (run : Runner) (body : Action Unit) : Action Ended := do
  let number ← newProcess
  let process := (← get).toProcess.fork number
  inProcess run (runJobs run maxOrphans) process body

/-- Says that a signal has ended a process, if that is worth a word. -/
def announce : Ended → Action Unit
  | .exited _ => return
  | .killed signal => do
    if let some words := Signal.words? signal then
      discard <| Action.write 2 (ascii (words ++ "\n"))

/-- Waits for a process inside the shell. Its status becomes that of the shell. -/
def waitFor (run : Runner) (body : Action Unit) : Action Unit := do
  Action.reuseJob
  let ended ← inChild run body
  announce ended
  Action.setStatus ended.status

/-- Connects the input of a process to a text. -/
def feed (octets : Bytes) : Action Unit :=
  modify fun state =>
    let (stream, shared) := state.shared.openText octets
    { state with shared }.connect 0 (some stream)

/-- Runs a process and collects what it prints. -/
def collecting (run : Runner) (limit : Option Nat) (body : Action Unit) :
    Action (Bytes × Ended) := do
  let state ← get
  let (number, shared) := state.shared.collect limit
  set { state with shared }
  let ended ← inChild run do
    modify fun state => state.connect 1 (some (.writing (.collected number)))
    body
  let state ← get
  let (octets, shared) := state.shared.finishCollection number
  set { state with shared }
  return (octets, ended)

/-- What a command prints that stands in a word. -/
def substitute (run : Runner) (command : Command) : Action Bytes := do
  match command with
  | .skip => return []
  | command =>
    Action.reuseJob
    let (octets, ended) ← collecting run none (run { isLast := true } command)
    announce ended
    modify fun state => { state with outputStatus := ended.status }
    return octets

/-- How many octets a command of a pipeline may print before the next one begins. -/
def pipeSize : Nat := 1000000

/-- Runs the commands of a pipeline, given what the first of them reads, if that is known. -/
def runPipeline (run : Runner) (manner : Manner) : Option Bytes → List Command → Action Unit
  | _, [] => return
  | input, command :: rest => do
    let body : Action Unit := do
      if let some octets := input then feed octets
      run { manner with isLast := true } command
    if rest.isEmpty then
      let ended ← inChild run body
      announce ended
      Action.setStatus ended.status
    else
      let (octets, ended) ← collecting run (some pipeSize) body
      announce ended
      runPipeline run manner (some octets) rest

/-- Starts a job. -/
def startJob (command : Command) : Action Unit := do
  Action.reuseJob
  let number ← newProcess
  let state ← get
  let process := state.toProcess.fork number
  let process := { process with
    ignored := 2 :: 3 :: process.ignored
    descriptors := (0, .reading (.device .null)) ::
      process.descriptors.filter fun entry => entry.1 ≠ 0 }
  let job : Job :=
    { number := Action.freeJobNumber state.jobs, process := number, start := some (command, process) }
  set { state with jobs := job :: state.jobs, background := some number, status := 0 }

/-- Waits for a job. -/
def waitForJob (run : Runner) (job : Job) : Action Nat := do
  let isNew := job.ended.isNone
  let ended ← runJob run (runJobs run maxOrphans) job
  if isNew then announce ended
  modify fun state => { state with jobs := state.jobs.map fun known =>
    if known.process = job.process then { known with isKnown := true } else known }
  return ended.status

/-- Waits for jobs, of which the last gives the status. -/
def waitForAll (run : Runner) (status : Nat) : List Bytes → Action Nat
  | [] => return status
  | name :: rest => do
    let job? ← match name with
      | 0x25 :: _ => do pure (some (← Action.findJob name))
      | name =>
        match Arithmetic.count? name with
        | some number => do pure ((← get).jobs.find? fun job => job.process = number)
        | none => Action.fail (ascii "Illegal number: " ++ name)
    match job? with
    | some job => waitForAll run (← waitForJob run job) rest
    | none => waitForAll run status rest

end Shell

end HostProvision
