import HostProvision.Shell.Variable

/-! # Signals and jobs

How signals are named, sent and received, and how jobs are named. A signal that a process pays
regard to by a trap is dealt with later; any other signal that is not harmless ends the process. -/

namespace HostProvision

namespace Shell

namespace Signal

/-- The names of the signals that have one. -/
def named : List (Nat × String) :=
  [(0, "EXIT"), (1, "HUP"), (2, "INT"), (3, "QUIT"), (4, "ILL"), (5, "TRAP"), (6, "ABRT"),
   (7, "BUS"), (8, "FPE"), (9, "KILL"), (10, "USR1"), (11, "SEGV"), (12, "USR2"), (13, "PIPE"),
   (14, "ALRM"), (15, "TERM"), (17, "CHLD"), (18, "CONT"), (19, "STOP"), (20, "TSTP"),
   (21, "TTIN"), (22, "TTOU"), (23, "URG"), (24, "XCPU"), (25, "XFSZ"), (26, "VTALRM"),
   (27, "PROF"), (28, "WINCH"), (29, "IO"), (30, "PWR"), (31, "SYS"), (34, "RTMIN"),
   (64, "RTMAX")]

/-- The greatest number of a signal. -/
def greatest : Nat := 64

/-- The name of a signal; one between the two ends of the last range is named for the nearer end. -/
def name (signal : Nat) : String :=
  match named.lookup signal with
  | some name => name
  | none =>
    if 34 < signal && signal < 50 then "RTMIN+" ++ toString (signal - 34)
    else if 50 ≤ signal && signal < 64 then "RTMAX-" ++ toString (64 - signal)
    else toString signal

/-- The signal that a text gives by its number. -/
def ofNumber? (text : Bytes) : Option Nat :=
  let digits := charsOf text
  let signal := Arithmetic.digitsValue 10 digits
  if !digits.isEmpty && digits.all Char.isDigit && signal ≤ greatest then some signal else none

/-- The signal that a text gives by its number or, whatever the case of letters, by its name. -/
def ofText? (text : Bytes) : Option Nat :=
  (ofNumber? text).or ((List.range (greatest + 1)).find? fun signal =>
    (name signal).toList.map Char.toLower = (charsOf text).map Char.toLower)

example : ofText? (ascii "rtmin+3") = some 37 := by decide +kernel
example : ofText? (ascii "SIGINT") = none := by decide +kernel

/-- The signals that do not end a process. -/
def harmless : List Nat :=
  [0, 17, 18, 19, 20, 21, 22, 23, 28]

/-- The signals that no process can pay regard to. -/
def untrappable : List Nat :=
  [9, 19]

/-- What a shell says about a process that a signal ended. -/
def words? (signal : Nat) : Option String :=
  match signal with
  | 1 => some "Hangup"
  | 3 => some "Quit"
  | 4 => some "Illegal instruction"
  | 5 => some "Trace/breakpoint trap"
  | 6 => some "Aborted"
  | 7 => some "Bus error"
  | 8 => some "Floating point exception"
  | 9 => some "Killed"
  | 10 => some "User defined signal 1"
  | 11 => some "Segmentation fault"
  | 12 => some "User defined signal 2"
  | 14 => some "Alarm clock"
  | 15 => some "Terminated"
  | 16 => some "Stack fault"
  | 24 => some "CPU time limit exceeded"
  | 25 => some "File size limit exceeded"
  | 26 => some "Virtual timer expired"
  | 27 => some "Profiling timer expired"
  | 29 => some "I/O possible"
  | 30 => some "Power failure"
  | 31 => some "Bad system call"
  | 34 => some "Real-time signal 0"
  | _ => if 34 < signal then some ("Real-time signal " ++ toString (signal - 34)) else none

end Signal

namespace Process

/-- What a process does on a signal: something, or nothing, or else it ends. -/
inductive Regard where
  /-- It carries out a trap. -/
  | trap
  /-- It does nothing. -/
  | none
  /-- It ends. -/
  | ends
  deriving DecidableEq, Repr

/-- What a process does on a signal. -/
def regard (process : Process) (signal : Nat) : Regard :=
  if Signal.untrappable.contains signal then
    if Signal.harmless.contains signal then .none else .ends
  else if process.ignored.contains signal then .none
  else match process.traps.lookup signal with
    | some [] => .none
    | some _ => .trap
    | _ => if Signal.harmless.contains signal then .none else .ends

end Process

namespace Action

/-- Receives a signal. -/
def receive (signal : Nat) : Action Unit := do
  match (← get).toProcess.regard signal with
  | .none => return
  | .ends => throw (.killed signal)
  | .trap =>
    unless (← get).received.contains signal do
      modify fun state =>
        { state with received := (signal :: state.received).mergeSort (· ≤ ·) }

/-- Receives the signals that other processes have sent. -/
def receiveAll : Action Unit := do
  let state ← get
  if state.shared.signals.isEmpty then return
  let (own, others) := state.shared.signals.partition fun sent => sent.1 = state.number
  modify fun state => { state with shared := { state.shared with signals := others } }
  for (_, signal) in own.reverse do
    receive signal

/-- Sends a signal to a process. The result is whether there is one. -/
def send (signal process : Nat) : Action Bool := do
  let state ← get
  if process = state.number then
    receive signal
    return true
  if !state.shared.live.contains process then return false
  if signal ≠ 0 then
    modify fun state => { state with
      shared := { state.shared with signals := (process, signal) :: state.shared.signals } }
  return true

/-! ### Jobs -/

/-- The job that a text names. -/
def findJob (text : Bytes) : Action Job := do
  let jobs := (← get).jobs
  let demand (job : Option Job) (words : Bytes) : Action Job :=
    match job with
    | some job => return job
    | none => fail words
  let missing := ascii "No such job: " ++ text
  match text with
  | [0x25] | [0x25, 0x25] | [0x25, 0x2B] => demand jobs.head? (ascii "No current job")
  | [0x25, 0x2D] => demand (jobs.drop 1).head? (ascii "No previous job")
  | 0x25 :: number =>
    demand (jobs.find? fun job => ascii (toString job.number) = number) missing
  | _ => fail missing

/-- A number for another job. -/
def freeJobNumber (jobs : List Job) : Nat :=
  let numbers := List.range (jobs.length + 1)
  ((numbers.map (· + 1)).find? fun number => !jobs.any (·.number = number)).getD 1

/-- Forgets the first job whose end has been asked for, as its number is wanted for another one. -/
def reuseJob : Action Unit :=
  modify fun state =>
    let known := state.jobs.filter fun job => job.ended.isSome && job.isKnown
    match (known.map Job.number).min? with
    | some number => { state with jobs := state.jobs.filter fun job => job.number ≠ number }
    | none => state

end Action

end Shell

end HostProvision
