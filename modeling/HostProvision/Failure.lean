import HostProvision.IoError

/-! # Failures

Why a command of the program ends without success, in what words that is reported, and with which
exit code. An external command that failed hands on its own exit code; every other failure, and a
command that ended without a code, exits with 1. -/

namespace HostProvision

/-- Why a command of the program failed. -/
inductive Failure where
  /-- An operation on the host failed. -/
  | io (cause : IoError)
  /-- The settings cannot be used, for the given reason. -/
  | settings (reason : String)
  /-- The compiler that was asked for is not supported. -/
  | unsupportedCompiler (value : String)
  /-- An external command ended without success. -/
  | commandFailed (command : String) (code : Option Int32)
  /-- A formula could not be installed, nor could the conflicting one be relinked. -/
  | fallbackExhausted (formula : String) (code : Option Int32)
  /-- The file that collects search path entries could not be written. -/
  | pathFile (file reason : String)
  deriving DecidableEq, Repr

namespace Failure

/-- The exit code of failures that carry none of their own. -/
def genericExitCode : Int32 := 1

/-- How an exit code, or the lack of one, is put into words. -/
def codeText : Option Int32 → String
  | some code => " with exit code " ++ toString code.toInt
  | none => " (terminated without an exit code)"

/-- The words in which a failure is reported. -/
def message : Failure → String
  | io cause => "I/O Error: " ++ cause.message
  | settings reason => "Configuration Error: " ++ reason
  | unsupportedCompiler value => "Compiler not supported: " ++ value
  | commandFailed command code => "Command '" ++ command ++ "' failed" ++ codeText code
  | fallbackExhausted formula code =>
    "Failed to install '" ++ formula ++ "' and the conflict relink fallback also failed" ++
      codeText code
  | pathFile file reason => "Failed to write path file " ++ file ++ ": " ++ reason

/-- The exit code of an external command, if it tells of a failure. -/
def failingCode : Option Int32 → Int32
  | some code => if code = 0 then genericExitCode else code
  | none => genericExitCode

/-- The exit code with which the program reports a failure. -/
def exitCode : Failure → Int32
  | commandFailed _ code => failingCode code
  | fallbackExhausted _ code => failingCode code
  | _ => genericExitCode

/-- A failing code is never zero. -/
theorem failingCode_ne_zero (code : Option Int32) : failingCode code ≠ 0 := by
  cases code with
  | none => decide
  | some code =>
    by_cases zero : code = 0
    · simp [failingCode, zero, genericExitCode]
    · simp [failingCode, zero]

/-- No failure is reported with the exit code of success. -/
theorem exitCode_ne_zero (failure : Failure) : failure.exitCode ≠ 0 := by
  cases failure <;> first | exact failingCode_ne_zero _ | simp [exitCode, genericExitCode]

end Failure

end HostProvision
