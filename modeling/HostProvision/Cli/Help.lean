import HostProvision.Cli.Usage
import HostProvision.Text.ControlSequence

/-! # Help pages

A help page says what a command does and lists what it takes, each list in two columns: the labels
are padded to the longest of them, and the descriptions follow after two spaces. Further lines of a
description are indented as far. -/

namespace HostProvision

namespace Cli

namespace Page

/-- How wide a text is on a terminal. -/
def width (text : String) : Nat :=
  (Text.ControlSequence.strip text).length

/-- A number of spaces. -/
def spaces (count : Nat) : String :=
  String.ofList (List.replicate count ' ')

/-- A list in two columns. -/
def columns (rows : List (String × String)) : List String :=
  let widest := (rows.map fun row => width row.1).foldl max 0
  rows.map fun (label, about) =>
    "  " ++ label ++ spaces (widest - width label) ++ "  " ++
      about.replace "\n" ("\n" ++ spaces (widest + 4))

/-- A list under a title. -/
def block (title : String) (rows : List (String × String)) : List String :=
  "" :: TextStyle.title.paint title :: columns rows

/-- The label of an option in a list. -/
def optionLabel (option : OptionName) : String :=
  match option.short? with
  | some letter => literal ("-" ++ String.singleton letter) ++ ", " ++ option.styled
  | none => "    " ++ option.styled

/-- The description of an option in a list. For an option that a variable of the environment can
stand in for, the variable's value is shown. -/
def optionAbout (compiler : Option Bytes) (option : OptionName) : String :=
  if option = .compiler then
    option.about ++ " [env: COMPILER=" ++ Utf8.lossy (compiler.getD []) ++ "]"
  else option.about

/-- The options of a command as a list. -/
def optionBlock (compiler : Option Bytes) (command : Option CommandName) : List String :=
  block "Options:" ((optionsOf command).map fun option =>
    (optionLabel option, optionAbout compiler option))

/-- What the command that shows help does. -/
def helpAbout : String :=
  "Print this message or the help of the given subcommand(s)"

/-- The commands as a list. -/
def commandBlock : List String :=
  block "Commands:"
    (CommandName.all.map (fun command => (literal command.spelling, command.about)) ++
      [(literal "help", helpAbout)])

/-- What a page is about. -/
def about : Page → String
  | program => "Provisions macOS CI hosts with Homebrew build dependencies"
  | command chosen => chosen.about
  | helpCommand => helpAbout

/-- The lists of a page, given the value of the variable that can stand in for the compiler. -/
def blocks (compiler : Option Bytes) : Page → List String
  | program => commandBlock ++ optionBlock compiler none
  | command .ensure =>
    block "Arguments:"
        [("<NAME>", "Formula to install or upgrade"),
          ("[EXTRA_ARGS]...", "Extra flags for install/upgrade, after \x60--\x60")] ++
      optionBlock compiler (some .ensure)
  | command chosen => optionBlock compiler (some chosen)
  | helpCommand => block "Arguments:" [("[COMMAND]...", "Print help for the subcommand(s)")]

/-- The lines of a page. -/
def lines (compiler : Option Bytes) (page : Page) : List String :=
  [page.about, "", Usage.line { page }] ++ page.blocks compiler

/-- The text of a page, with its styles. -/
def text (compiler : Option Bytes) (page : Page) : String :=
  String.join ((page.lines compiler).map (· ++ "\n"))

end Page

/-- The line that tells the version. -/
def versionLine : Option CommandName → String
  | none => programName ++ " " ++ programVersion
  | some command => programName ++ "-" ++ command.spelling ++ " " ++ programVersion

end Cli

end HostProvision
