import HostProvision.Text.Similarity

/-! # Commands and options of the program

The tables of the command line: which commands there are, which options each takes and in which
order they are listed, and how commands and options are spelled and described. -/

namespace HostProvision

namespace Cli

/-- The name of the program. -/
def programName : String := "brewup"

/-- The version of the program. -/
def programVersion : String := "0.1.0"

/-- A command of the program. -/
inductive CommandName where
  /-- Provisions the host. -/
  | run
  /-- Ensures one formula. -/
  | ensure
  /-- Lists the compilers. -/
  | compilers
  deriving DecidableEq, Repr

namespace CommandName

/-- All commands, in the order in which they are listed. -/
def all : List CommandName :=
  [run, ensure, compilers]

/-- How a command is spelled. -/
def spelling : CommandName → String
  | run => "run"
  | ensure => "ensure"
  | compilers => "compilers"

/-- What a command does. -/
def about : CommandName → String
  | run => "Provision the host: update Homebrew, install build deps, compiler and Python tooling"
  | ensure => "Install or upgrade a single formula"
  | compilers => "List supported COMPILER values"

/-- The command with a given spelling. -/
def ofSpelling? (text : String) : Option CommandName :=
  all.find? fun command => command.spelling = text

/-- A command is found by its spelling. -/
@[simp] theorem ofSpelling?_spelling (command : CommandName) :
    ofSpelling? command.spelling = some command := by
  cases command <;> decide

end CommandName

/-- An option of the program. -/
inductive OptionName where
  /-- More log messages. -/
  | verbose
  /-- A directory for log files. -/
  | logDirectory
  /-- The compiler. -/
  | compiler
  /-- A dry run. -/
  | dryRun
  /-- The file that collects search path entries. -/
  | pathFile
  /-- Help. -/
  | help
  /-- The version. -/
  | version
  deriving DecidableEq, Repr

namespace OptionName

/-- The long spelling of an option, without its dashes. -/
def long : OptionName → String
  | verbose => "verbose"
  | logDirectory => "log-dir"
  | compiler => "compiler"
  | dryRun => "dry-run"
  | pathFile => "path-file"
  | help => "help"
  | version => "version"

/-- The one-letter spelling of an option, if it has one. -/
def short? : OptionName → Option Char
  | verbose => some 'v'
  | help => some 'h'
  | version => some 'V'
  | _ => none

/-- What the value of an option is called, if it takes one. -/
def valueName? : OptionName → Option String
  | logDirectory => some "DIR"
  | compiler => some "COMPILER"
  | pathFile => some "FILE"
  | _ => none

/-- Whether an option takes a value. -/
def takesValue (option : OptionName) : Bool :=
  option.valueName?.isSome

/-- Whether the value of an option may be empty. -/
def admitsEmpty : OptionName → Bool
  | compiler => true
  | _ => false

/-- What an option does. -/
def about : OptionName → String
  | verbose => ""
  | logDirectory => "Also write logs to a daily rolling file in this directory"
  | compiler => "Compiler to provision, e.g. gcc-6 or clang-default"
  | dryRun => "Print the commands instead of running them"
  | pathFile => "Append the Homebrew bin directory to this file (GitHub Actions style)"
  | help => "Print help"
  | version => "Print version"

/-- What follows the spelling of an option in messages: a placeholder for its value, or dots if the
option counts. -/
def suffix (option : OptionName) : String :=
  match option.valueName? with
  | some value => " <" ++ value ++ ">"
  | none => if option = .verbose then "..." else ""

/-- The long spelling of an option with its value, as messages show it. -/
def shown (option : OptionName) : String :=
  "--" ++ option.long ++ option.suffix

end OptionName

/-- The options of a command, or of the program before any command, in the order in which they are
listed. -/
def optionsOf : Option CommandName → List OptionName
  | none => [.verbose, .logDirectory, .help, .version]
  | some .run => [.compiler, .verbose, .dryRun, .logDirectory, .pathFile, .help, .version]
  | some .ensure => [.dryRun, .verbose, .logDirectory, .help, .version]
  | some .compilers => [.verbose, .logDirectory, .help, .version]

/-- All options, in the order in which they were introduced. -/
def OptionName.all : List OptionName :=
  [.compiler, .dryRun, .pathFile, .verbose, .logDirectory, .help, .version]

/-- The options of a command whose long spelling a text may be meant for, the most similar one
last. -/
def similarOptions (command : Option CommandName) (text : String) : List OptionName :=
  Text.Similarity.closeTo text OptionName.long
    (OptionName.all.filter fun option => (optionsOf command).contains option)

/-- The option of a command with a given long spelling. -/
def longOption? (command : Option CommandName) (text : String) : Option OptionName :=
  (optionsOf command).find? fun option => option.long = text

/-- The option of a command with a given one-letter spelling. -/
def shortOption? (command : Option CommandName) (letter : Char) : Option OptionName :=
  (optionsOf command).find? fun option => option.short? = some letter

end Cli

end HostProvision
