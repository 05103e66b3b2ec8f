import HostProvision.Cli.Usage

/-! # Complaints about the command line

A complaint says why a command line cannot be used. It consists of the error, of tips on what may
have been meant, of a usage line, and of a hint at the help. What was typed wrongly stands out, and so
does what could be typed instead. -/

namespace HostProvision

namespace Cli

/-- Why a command line cannot be used. -/
inductive UsageError where
  /-- An argument has no place. -/
  | unexpectedArgument (argument : String)
  /-- A command does not exist. -/
  | unknownCommand (name : String)
  /-- An option that takes no value was given one. -/
  | unexpectedValue (value : String) (option : OptionName)
  /-- An option lacks its value. -/
  | missingValue (option : OptionName)
  /-- An option that may be given once was given again. -/
  | repeatedOption (option : OptionName)
  /-- Required arguments are missing. -/
  | missingArguments
  /-- No command was given. -/
  | missingCommand
  /-- A value is no text. -/
  | invalidText
  deriving DecidableEq, Repr

/-- What was typed wrongly. -/
def wrong (text : String) : String :=
  TextStyle.yellow.paint text

/-- What could be typed instead. -/
def right (text : String) : String :=
  TextStyle.green.paint text

/-- The names of all commands, with the one that shows help. -/
def commandNames : List String :=
  CommandName.all.map CommandName.spelling ++ ["help"]

namespace UsageError

/-- The words in which an error is reported. -/
def message : UsageError → String
  | unexpectedArgument argument => "unexpected argument '" ++ wrong argument ++ "' found"
  | unknownCommand name => "unrecognized subcommand '" ++ wrong name ++ "'"
  | unexpectedValue value option =>
    "unexpected value '" ++ wrong value ++ "' for '" ++ literal option.shown ++
      "' found; no more were expected"
  | missingValue option =>
    "a value is required for '" ++ wrong option.shown ++ "' but none was supplied"
  | repeatedOption option =>
    "the argument '" ++ wrong option.shown ++ "' cannot be used multiple times"
  | missingArguments =>
    "the following required arguments were not provided:\n  " ++ right "<NAME>"
  | missingCommand =>
    "'" ++ wrong programName ++ "' requires a subcommand but one was not provided\n" ++
      "  [subcommands: " ++ ", ".intercalate (commandNames.map right) ++ "]"
  | invalidText => "invalid UTF-8 was detected in one or more arguments"

end UsageError

/-- What may have been meant. -/
inductive Tip where
  /-- One of some commands. -/
  | similarCommands (names : List String)
  /-- An option. -/
  | similarOption (option : OptionName)
  /-- An option of a command that comes later. -/
  | optionOf (command : CommandName) (option : OptionName)
  /-- A positional argument. -/
  | asValue (argument : String)
  /-- A command, without the two dashes before it. -/
  | withoutDashes (name : String)
  deriving DecidableEq, Repr

namespace Tip

/-- The words of a tip. -/
def message : Tip → String
  | similarCommands [name] => "a similar subcommand exists: '" ++ right name ++ "'"
  | similarCommands names =>
    "some similar subcommands exist: " ++
      ", ".intercalate (names.map fun name => "'" ++ right name ++ "'")
  | similarOption option => "a similar argument exists: '" ++ right ("--" ++ option.long) ++ "'"
  | optionOf command option =>
    "'" ++ right (command.spelling ++ " --" ++ option.long) ++ "' exists"
  | asValue argument =>
    "to pass '" ++ wrong argument ++ "' as a value, use '" ++ right ("-- " ++ argument) ++ "'"
  | withoutDashes name =>
    "subcommand '" ++ right name ++ "' exists; to use it, remove the '" ++ wrong "--" ++
      "' before it"

end Tip

/-- Why a command line cannot be used, with what helps to mend it. -/
structure Complaint where
  /-- The error. -/
  error : UsageError
  /-- What may have been meant. -/
  tips : List Tip := []
  /-- How the program is called, where that helps. -/
  usage? : Option Usage := none
  deriving DecidableEq, Repr

namespace Complaint

/-- Whether the help of the command at hand is pointed at. The command that shows help has none. -/
def pointsAtHelp (complaint : Complaint) : Bool :=
  (complaint.usage?.map Usage.page) ≠ some .helpCommand

/-- The paragraphs of a complaint. -/
def paragraphs (complaint : Complaint) : List String :=
  [TextStyle.alarm.paint "error:" ++ " " ++ complaint.error.message] ++
    (if complaint.tips.isEmpty then []
      else ["\n".intercalate (complaint.tips.map fun tip =>
        "  " ++ right "tip:" ++ " " ++ tip.message)]) ++
    (complaint.usage?.map Usage.line).toList ++
    if complaint.pointsAtHelp then
      ["For more information, try '" ++ literal "--help" ++ "'."] else []

/-- The text of a complaint, with its styles. -/
def text (complaint : Complaint) : String :=
  "\n\n".intercalate complaint.paragraphs ++ "\n"

end Complaint

end Cli

end HostProvision
