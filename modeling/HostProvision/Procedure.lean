import HostProvision.Event

/-! # Procedures

A `Procedure` is what the program does, seen from outside: it tells notices, asks the host for
things and goes on with each answer, and at last it is done with a result. A `Step` is a procedure
that may fail, and then does nothing more. `rehearse` turns a procedure into its dry run, which
shows the commands instead of running them. -/

namespace HostProvision

/-- How opening log files goes. -/
inductive LogOpening where
  /-- The directory is there, and a log file in it is open. -/
  | opened
  /-- The directory cannot be made. -/
  | noDirectory (cause : IoError)
  /-- The directory is there, but no log file in it can be opened. What is told of that comes with
  the answer. -/
  | noFile (report : Bytes)
  deriving DecidableEq, Repr

/-- The name of the log file of a day, which is written as year, month and day. -/
def LogOpening.fileName (day : String) : Bytes :=
  Utf8.encode ("brewup.log." ++ day)

/-- What a procedure asks of its host. -/
inductive Request where
  /-- The time that has passed since some fixed moment. -/
  | clock
  /-- To run a command and wait for its end. -/
  | command (mode : Mode) (line : CommandLine)
  /-- To look a program up on the search path. -/
  | lookup (program : String)
  /-- To add octets at the end of a file, which is made if it is missing. -/
  | append (file content : Bytes)
  /-- To make a directory, with its parents, and open a log file in it. -/
  | openLogs (directory : Bytes)
  deriving DecidableEq, Repr

/-- How the host answers a request. A command that ended badly has a reply all the same; an error
means that it could not be run. -/
abbrev Request.Answer : Request → Type
  | .clock => Elapsed
  | .command .. => Except IoError Reply
  | .lookup _ => Bool
  | .append .. => Except IoError Unit
  | .openLogs _ => LogOpening

/-- A course of action that ends with a result. -/
inductive Procedure (α : Type) where
  /-- The result. -/
  | done (value : α)
  /-- Tells a notice and goes on. -/
  | notify (notice : Notice) (next : Procedure α)
  /-- Asks the host and goes on with its answer. -/
  | ask (request : Request) (next : request.Answer → Procedure α)

namespace Procedure

variable {α β γ : Type}

/-- One course of action after another. -/
def bind (first : Procedure α) (second : α → Procedure β) : Procedure β :=
  match first with
  | done value => second value
  | notify notice next => notify notice (next.bind second)
  | ask request next => ask request fun answer => (next answer).bind second

instance : Monad Procedure where
  pure := done
  bind := bind

/-- Doing nothing after a procedure changes nothing. -/
theorem bind_done (procedure : Procedure α) : procedure.bind done = procedure := by
  induction procedure with
  | done value => rfl
  | notify notice next ih => exact congrArg (notify notice) ih
  | ask request next ih => exact congrArg (ask request) (funext ih)

/-- How a sequence of three is grouped does not matter. -/
theorem bind_assoc (first : Procedure α) (second : α → Procedure β) (third : β → Procedure γ) :
    (first.bind second).bind third = first.bind fun value => (second value).bind third := by
  induction first with
  | done value => rfl
  | notify notice next ih => exact congrArg (notify notice) ih
  | ask request next ih => exact congrArg (ask request) (funext ih)

instance : LawfulMonad Procedure :=
  LawfulMonad.mk' Procedure bind_done (fun _ _ => rfl) bind_assoc

@[simp] theorem pure_eq_done (value : α) : (pure value : Procedure α) = done value :=
  rfl

@[simp] theorem done_bind (value : α) (second : α → Procedure β) :
    done value >>= second = second value :=
  rfl

@[simp] theorem notify_bind (notice : Notice) (next : Procedure α) (second : α → Procedure β) :
    notify notice next >>= second = notify notice (next >>= second) :=
  rfl

@[simp] theorem ask_bind (request : Request) (next : request.Answer → Procedure α)
    (second : α → Procedure β) :
    ask request next >>= second = ask request fun answer => next answer >>= second :=
  rfl

/-- Tells a notice. -/
def tell (notice : Notice) : Procedure Unit :=
  notify notice (done ())

/-- Tells a log message. -/
def log (event : Event) : Procedure Unit :=
  tell (.event event)

/-- Shows a line on the diagnostic stream. -/
def showLine (text : String) : Procedure Unit :=
  tell (.diagnostics (Utf8.encode (text ++ "\n")))

/-- Prints a line on the output stream. -/
def printLine (text : String) : Procedure Unit :=
  tell (.output (text ++ "\n"))

/-- Asks the host. -/
def request (request : Request) : Procedure request.Answer :=
  ask request done

/-- Does something inside a span. -/
def inSpan (span : Span) (body : Procedure α) : Procedure α := do
  tell (.enter span)
  let value ← body
  tell .leave
  return value

/-- The line by which a dry run shows a command. -/
def rehearsalLine (line : CommandLine) : String :=
  "[dry-run] " ++ line.render

/-- The dry run of a procedure: every command is shown instead of being run and counts as done
without printing anything. Programs are still looked up. -/
def rehearse : Procedure α → Procedure α
  | done value => done value
  | notify notice next => notify notice next.rehearse
  | ask (.command _ line) next =>
    notify (.diagnostics (Utf8.encode (rehearsalLine line ++ "\n")))
      (next (.ok Reply.success)).rehearse
  | ask .clock next => ask .clock fun answer => (next answer).rehearse
  | ask (.lookup program) next => ask (.lookup program) fun answer => (next answer).rehearse
  | ask (.append file content) next =>
    ask (.append file content) fun answer => (next answer).rehearse
  | ask (.openLogs directory) next =>
    ask (.openLogs directory) fun answer => (next answer).rehearse

end Procedure

/-- A procedure that may fail, and then does nothing more. -/
abbrev Step (α : Type) : Type :=
  ExceptT Failure Procedure α

namespace Step

variable {α β : Type}

/-- Tells a log message. -/
def log (event : Event) : Step Unit :=
  ExceptT.lift (Procedure.log event)

/-- Goes on with a value, or fails. -/
def ofExcept (result : Except Failure α) : Step α :=
  ExceptT.mk (pure result)

/-- Runs a command. -/
def command (mode : Mode) (line : CommandLine) : Step Reply :=
  ExceptT.mk do
    match ← Procedure.request (.command mode line) with
    | .ok reply => return .ok reply
    | .error cause => return .error (.io cause)

/-- Runs a command that has to succeed. -/
def commandChecked (mode : Mode) (line : CommandLine) : Step Reply := do
  let reply ← command mode line
  ofExcept (reply.check line)

/-- Looks a program up on the search path. -/
def lookup (program : String) : Step Bool :=
  ExceptT.lift (Procedure.request (.lookup program))

/-- The reading of the clock. -/
def clock : Step Elapsed :=
  ExceptT.lift (Procedure.request .clock)

/-- Does something inside a span, which ends even if that fails. -/
def inSpan (span : Span) (body : Step α) : Step α :=
  ExceptT.mk (Procedure.inSpan span body.run)

/-- The dry run of a step. -/
def rehearse (step : Step α) : Step α :=
  ExceptT.mk step.run.rehearse

end Step

end HostProvision
