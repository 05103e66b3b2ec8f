import HostProvision.Text.Utf8

/-! # Shell scripts

The command language in which small tools are written. A `Word` consists of fragments: octets that
stand for themselves, quoted parts, and expansions of parameters, commands and integer expressions.
A `Command` is a simple command with assignments, words and redirections, or puts other commands
together. Words hold commands, as what a command prints may be part of a word. -/

namespace HostProvision

namespace Shell

/-- What a parameter expansion stands for. -/
inductive Parameter where
  /-- A variable. -/
  | named (name : String)
  /-- An argument by position; position 0 is the name of the script. -/
  | position (index : Nat)
  /-- All arguments, each by itself (`$@`) or joined (`$*`). -/
  | all (isJoined : Bool)
  /-- The number of arguments. -/
  | count
  /-- The exit status of the last command. -/
  | status
  /-- The number of the shell's own process. -/
  | process
  /-- The letters of the options that are set. -/
  | options
  /-- The number of the last process in the background. -/
  | background
  deriving DecidableEq, Repr

/-- What is made of the value of a parameter, given the word that follows it between braces. -/
inductive Form where
  /-- The value itself. -/
  | plain
  /-- The number of its octets. -/
  | length
  /-- The word in place of a missing value (`-`). -/
  | use (emptyIsMissing : Bool)
  /-- The word in place of a missing value, which it is assigned to (`=`). -/
  | assign (emptyIsMissing : Bool)
  /-- A complaint with the word about a missing value (`?`). -/
  | refuse (emptyIsMissing : Bool)
  /-- The word in place of a value that is there (`+`). -/
  | invert (emptyIsMissing : Bool)
  /-- The value without its shortest or longest beginning that matches the word (`#`). -/
  | trimStart (isLongest : Bool)
  /-- The value without its shortest or longest end that matches the word (`%`). -/
  | trimEnd (isLongest : Bool)
  /-- Nothing: the form is not known. -/
  | unknown
  deriving DecidableEq, Repr

/-- How a descriptor is connected to a file. -/
inductive FileUse where
  /-- For reading. -/
  | read
  /-- For writing from the beginning, which empties the file; with protection, only if there is no
  file yet and the shell was told to keep files. -/
  | write (isProtected : Bool)
  /-- For writing at the end. -/
  | append
  /-- For reading and writing from the beginning. -/
  | readWrite
  deriving DecidableEq, Repr

mutual

/-- A part of a word. -/
inductive Fragment where
  /-- Octets that stand for themselves. Outside quotes they may be part of a pattern. -/
  | text (octets : Bytes)
  /-- An octet that a backslash quotes. -/
  | escaped (octet : UInt8)
  /-- Parts between quotes, which are neither split into fields nor read as patterns. -/
  | quoted (parts : List Fragment)
  /-- A parameter. -/
  | parameter (parameter : Parameter) (form : Form) (word : List Fragment)
  /-- What a command prints. -/
  | output (body : Command)
  /-- The value of the integer expression that a word expands to. -/
  | arithmetic (expression : List Fragment)

/-- What a redirection connects a descriptor to. -/
inductive Target where
  /-- Another descriptor, given by a digit. -/
  | descriptor (number : Nat)
  /-- Another descriptor, given by a word. -/
  | descriptorNamed (word : List Fragment)
  /-- Nothing. -/
  | nothing
  /-- A file. -/
  | file (use : FileUse) (path : List Fragment)
  /-- A text that stands in the script after the command, by its place among all such texts. -/
  | document (index : Nat)

/-- A redirection of a descriptor. -/
inductive Redirection where
  /-- A descriptor is connected to something. -/
  | connect (descriptor : Nat) (target : Target)

/-- A command of a script. -/
inductive Command where
  /-- Nothing. -/
  | skip
  /-- Assignments, and a command by its words, with the line on which it begins. -/
  | simple (line : Nat) (assignments : List (String × List Fragment))
    (words : List (List Fragment)) (redirections : List Redirection)
  /-- One command after another. -/
  | sequence (first second : Command)
  /-- A second command if the first one succeeds. -/
  | andThen (first second : Command)
  /-- A second command unless the first one succeeds. -/
  | orElse (first second : Command)
  /-- The opposite of the status of a command. -/
  | negation (body : Command)
  /-- Commands, each of which reads what the one before it prints. -/
  | pipeline (commands : List Command)
  /-- A command that nobody waits for. -/
  | background (body : Command)
  /-- A command with redirections, with the line on which it begins. -/
  | redirected (line : Nat) (body : Command) (redirections : List Redirection)
  /-- Commands that cannot change the shell that runs them, with redirections. -/
  | subshell (line : Nat) (body : Command) (redirections : List Redirection)
  /-- A choice by the status of a command. -/
  | conditional (test thenBody : Command) (elseBody : Option Command)
  /-- A repetition for as long as a test succeeds, or fails. -/
  | loop (whileSucceeds : Bool) (test body : Command)
  /-- A repetition for each word. -/
  | forEach (line : Nat) (name : String) (words : List (List Fragment)) (body : Command)
  /-- A choice by a word: the first of some clauses with a pattern that matches. -/
  | choose (line : Nat) (subject : List Fragment) (clauses : List (List (List Fragment) × Command))
  /-- The definition of a function. -/
  | define (name : String) (body : Command)

end

instance : Inhabited Fragment :=
  ⟨.text []⟩

instance : Inhabited Command :=
  ⟨.skip⟩

/-- The names of the special commands: one that goes wrong ends the shell, and none of them can be
the name of a function. -/
def Command.specialNames : List String :=
  [".", ":", "break", "continue", "eval", "exec", "exit", "export", "local", "readonly", "return",
   "set", "shift", "times", "trap", "unset"]

/-- A word of a script. -/
abbrev Word : Type :=
  List Fragment

namespace Word

/-- The octets of a word that is neither quoted nor expanded. -/
def plain? (word : Word) : Option Bytes :=
  match word with
  | [] => some []
  | [.text octets] => some octets
  | _ => none

/-- The empty word is plain. -/
@[simp] theorem plain?_nil : plain? [] = some [] :=
  rfl

end Word

end Shell

end HostProvision
