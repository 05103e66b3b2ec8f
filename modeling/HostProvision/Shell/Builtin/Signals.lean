import HostProvision.Shell.Builtin.Output
import HostProvision.Shell.Signal

/-! # Commands about signals and jobs

`trap`, `kill`, `jobs`, and `fg` and `bg`, which find no job that a terminal controls. -/

namespace HostProvision

namespace Shell

namespace Builtin

/-- Sets what is done on signals, or lists it. -/
def trap : Builtin := fun args => do
  match ← withoutOptions args with
  | [] =>
    let shown := (← get).traps.mergeSort fun a b => a.1 ≤ b.1
    let line (entry : Nat × Bytes) : Bytes :=
      ascii "trap -- " ++ quoted entry.2 ++ ascii (" " ++ Signal.name entry.1 ++ "\n")
    say (shown.flatMap line) 0
  | first :: rest =>
    -- A number in first place is a signal, and there is nothing to do on it.
    let isSignal := rest = [] || (Signal.ofNumber? first).isSome
    let script? := if isSignal || first = ascii "-" then none else some first
    for name in if isSignal then first :: rest else rest do
      match Signal.ofText? name with
      | some signal =>
        modify fun state =>
          let others := state.traps.filter fun entry => entry.1 ≠ signal
          let own := (script?.map fun script => (signal, script)).toList
          { state with
            traps := own ++ others
            received := state.received.filter fun known => known ≠ signal || own ≠ [] }
      | none =>
        discard <| Action.write 2 (ascii "trap: " ++ name ++ ascii ": bad trap\n")
        return 1
    return 0

/-- How `kill` is used. -/
def killUsage : String :=
  "Usage: kill [-s sigspec | -signum | -sigspec] [pid | job]... or\nkill -l [exitstatus]"

/-- The signals that `kill` can send, or the name of one by its number or by the status of a process
that it ended. -/
def listSignals : Builtin
  | [] => say (ascii "0\n" ++ ((List.range Signal.greatest).flatMap fun signal =>
      ascii (Signal.name (signal + 1) ++ "\n"))) 0
  | arg :: _ => do
    let number ← demandCount arg
    let signal := if 128 < number then number - 128 else number
    if 0 < signal && signal ≤ Signal.greatest then sayLine (ascii (Signal.name signal)) 0
    else Action.fail (ascii "invalid signal number or exit status: " ++ arg)

/-- The signal that can be sent by a name or a number. -/
def sendable? (text : Bytes) : Option Nat :=
  (Signal.ofText? text).filter fun signal => signal ≠ 0 || (Signal.ofNumber? text).isSome

/-- Sends a signal to processes. -/
def sendAll (signal : Nat) : List Bytes → Action Nat
  | [] => return 0
  | target :: rest => do
    let isThere ← match target with
      | 0x25 :: _ => do
        -- A job without a terminal is not a group of processes.
        discard <| Action.findJob target
        pure false
      | 0x2D :: group => do
        discard <| demandCount group
        pure false
      | target => do
        let process ← demandCount target
        let own := (← get).number
        Action.send signal (if process = 0 then own else process)
    unless isThere do Action.complain (ascii "No such process\n")
    return (← sendAll signal rest) ||| answerStatus isThere

/-- Sends a signal as arguments say. -/
def kill : Builtin := fun args => do
  let firstSignal? := match args with
    | (0x2D :: name) :: _ => sendable? name
    | _ => none
  let (signal?, isList, targets) ← match firstSignal?, args with
    | some signal, _ :: targets => pure (some signal, false, targets)
    | _, args => do
      let (options, targets) ← takeOptions [('l', false), ('s', true)] args
      let mut signal? := none
      for (letter, name) in options do
        if letter = 's' then
          match sendable? name with
          | some signal => signal? := some signal
          | none => Action.fail (ascii "invalid signal number or name: " ++ name)
      pure (signal?, options.any fun option => option.1 = 'l', targets)
  if args = [] then Action.fail (ascii killUsage)
  let signal? := if isList then signal? else some (signal?.getD 15)
  if (signal?.isNone || targets.isEmpty) != isList then Action.fail (ascii killUsage)
  if isList then listSignals targets else sendAll (signal?.getD 15) targets

/-! ### Jobs -/

/-- What is shown of a job. -/
inductive JobView where
  /-- How it is. -/
  | plain
  /-- How it is, and the number of its process. -/
  | withProcess
  /-- The number of its process. -/
  | process
  deriving DecidableEq, Repr

/-- The line about a job, given those that there are. -/
def jobLine (view : JobView) (jobs : List Job) (job : Job) : String :=
  let number := toString job.process
  if view = .process then number ++ "\n"
  else
    let mark :=
      if (jobs.head?.map Job.number) = some job.number then "+"
      else if ((jobs.drop 1).head?.map Job.number) = some job.number then "-"
      else " "
    let words := match job.ended with
      | none => "Running"
      | some (.exited 0) => "Done"
      | some (.exited status) => "Done(" ++ toString status ++ ")"
      | some (.killed signal) => (Signal.words? signal).getD ""
    let start := "[" ++ toString job.number ++ "] " ++ mark ++ " " ++
      (if view = .withProcess then number ++ " " else "") ++ words
    start ++ String.ofList (List.replicate (max 1 (33 - start.length)) ' ') ++ "\n"

/-- Shows jobs. One that has ended is forgotten afterwards. -/
def showJobs (view : JobView) : List Job → Action String
  | [] => return ""
  | job :: rest => do
    let line := jobLine view (← get).jobs job
    if job.ended.isSome then
      modify fun state =>
        { state with jobs := state.jobs.filter fun known => known.number ≠ job.number }
    return line ++ (← showJobs view rest)

/-- Shows some jobs, or all of them. -/
def jobs : Builtin := fun args => do
  let (options, names) ← takeOptions [('l', false), ('p', false)] args
  let view := match options.getLast? with
    | some ('l', _) => JobView.withProcess
    | some _ => .process
    | none => .plain
  if names = [] then say (ascii (← showJobs view (← get).jobs)) 0
  else
    let mut lines := ""
    for name in names do
      lines := lines ++ (← showJobs view [← Action.findJob name])
    say (ascii lines) 0

/-- Brings a job back to the terminal, which no job has. -/
def resumeJob : Builtin := fun args => do
  let names ← withoutOptions args
  match names, (← get).jobs with
  | [], [] => Action.fail (ascii "No current job")
  | [], _ => Action.fail (ascii "job (null) not created under job control")
  | name :: _, _ =>
    discard <| Action.findJob name
    Action.fail (ascii "job " ++ name ++ ascii " not created under job control")

end Builtin

end Shell

end HostProvision
