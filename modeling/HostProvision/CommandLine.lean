import HostProvision.Failure

/-! # External commands and their replies

A command line is a program with its arguments. A command that could be run at all replies with its
exit code, if it has one, and with what it printed. -/

namespace HostProvision

/-- An external command line. -/
@[ext] structure CommandLine where
  /-- The program to run. -/
  program : String
  /-- Its arguments. -/
  args : List String
  deriving DecidableEq, Repr

namespace CommandLine

/-- A command line as it is shown: the program and its arguments with a space before each. -/
def render (line : CommandLine) : String :=
  String.join (line.program :: line.args.map (" " ++ ·))

@[simp] theorem render_nil (program : String) : render ⟨program, []⟩ = program := by
  simp [render, String.join]

end CommandLine

/-- What a command replied. -/
@[ext] structure Reply where
  /-- The exit code, none if the command was ended by a signal. -/
  code : Option Int32
  /-- What the command printed, if that was kept. -/
  stdout : String
  deriving DecidableEq, Repr

namespace Reply

/-- The reply of a command that did its work in silence. -/
def success : Reply :=
  ⟨some 0, ""⟩

/-- Whether a command did its work. -/
def succeeded (reply : Reply) : Bool :=
  reply.code = some 0

/-- The reply of a command that has to succeed. -/
def check (reply : Reply) (line : CommandLine) : Except Failure Reply :=
  if reply.succeeded then .ok reply else .error (.commandFailed line.render reply.code)

@[simp] theorem succeeded_success : success.succeeded = true :=
  rfl

/-- A check passes replies of success on. -/
@[simp] theorem check_of_succeeded {reply : Reply} (line : CommandLine)
    (succeeded : reply.succeeded = true) : reply.check line = .ok reply := by
  simp [check, succeeded]

/-- A check turns every other reply into a failure that names the command and its exit code. -/
@[simp] theorem check_of_not_succeeded {reply : Reply} (line : CommandLine)
    (failed : reply.succeeded = false) :
    reply.check line = .error (.commandFailed line.render reply.code) := by
  simp [check, failed]

end Reply

/-- How a command is run. -/
inductive Mode where
  /-- What the command prints is kept for the caller. -/
  | capture
  /-- What the command prints is shown to the user. -/
  | stream
  deriving DecidableEq, Repr

end HostProvision
