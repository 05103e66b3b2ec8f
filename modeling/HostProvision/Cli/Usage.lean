import HostProvision.Cli.Colour
import HostProvision.Cli.Options

/-! # Usage lines

A usage line says how a command is called. In general it names the required arguments and leaves the
options to a placeholder; after a mistake it can name the options that were given instead. Words to
be typed as they are stand out, placeholders do not. -/

namespace HostProvision

namespace Cli

/-- A page of help, which is about one way to call the program. -/
inductive Page where
  /-- The program as a whole. -/
  | program
  /-- A command. -/
  | command (command : CommandName)
  /-- The command that shows help. -/
  | helpCommand
  deriving DecidableEq, Repr

/-- The page about the arguments of a command, or about those before any command. -/
def Page.ofCommand? : Option CommandName → Page
  | some chosen => .command chosen
  | none => .program

/-- An argument that a usage line can name. -/
inductive Argument where
  /-- An option. -/
  | option (option : OptionName)
  /-- The formula. -/
  | name
  /-- The arguments after two dashes. -/
  | extra
  deriving DecidableEq, Repr

/-- How the program is called. -/
structure Usage where
  /-- The page that is about it. -/
  page : Page
  /-- The arguments that are named, if any. -/
  named : List Argument := []
  deriving DecidableEq, Repr

/-- A word to be typed as it is. -/
def literal (text : String) : String :=
  TextStyle.bold.paint text

/-- The long spelling of an option with a placeholder for its value. -/
def OptionName.styled (option : OptionName) : String :=
  literal ("--" ++ option.long) ++ option.suffix

namespace Usage

/-- The words that call the page's part of the program. -/
def command : Page → String
  | .program => programName
  | .command command => programName ++ " " ++ command.spelling
  | .helpCommand => programName ++ " help"

/-- The options that a usage line names. -/
def options (usage : Usage) : List String :=
  usage.named.filterMap fun argument =>
    match argument with
    | .option option => some option.styled
    | .name | .extra => none

/-- The positional arguments that a usage line names. -/
def positionals (usage : Usage) : List String :=
  match usage.page with
  | .program => ["<COMMAND>"]
  | .command .ensure =>
    ["<NAME>",
      if usage.named.contains .extra then literal "-- " ++ "<EXTRA_ARGS>..."
      else literal "[--" ++ " <EXTRA_ARGS>..." ++ literal "]"]
  | .command _ => []
  | .helpCommand => ["[COMMAND]..."]

/-- Whether a placeholder stands for the options. -/
def hidesOptions (usage : Usage) : Bool :=
  usage.named.isEmpty && usage.page ≠ .helpCommand

/-- A usage line. -/
def line (usage : Usage) : String :=
  TextStyle.title.paint "Usage:" ++ " " ++ " ".intercalate
    (literal (command usage.page) :: (if usage.hidesOptions then ["[OPTIONS]"] else []) ++
      usage.options ++ usage.positionals)

end Usage

end Cli

end HostProvision
