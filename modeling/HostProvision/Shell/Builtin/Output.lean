import HostProvision.Shell.Printing
import HostProvision.Shell.Variable

/-! # Commands that print

What the shell's own commands have in common, which is that they read options and print, and those
that do nothing else. Each command takes its arguments and gives its status. -/

namespace HostProvision

namespace Shell

/-- A command that is part of the shell. -/
abbrev Builtin : Type :=
  List Bytes → Action Nat

namespace Builtin

/-- The status of an answer. -/
def answerStatus (holds : Bool) : Nat :=
  if holds then 0 else 1

/-- The status of an answer is zero exactly if the answer is yes. -/
@[simp] theorem answerStatus_eq_zero_iff (holds : Bool) :
    answerStatus holds = 0 ↔ holds = true := by
  cases holds <;> decide

/-- Prints what a command has to say, with the status that it then has. -/
def say (octets : Bytes) (status : Nat) : Action Nat := do
  if octets = [] then return status
  if ← Action.write 1 octets then return status
  let heading := (← get).heading.getD []
  Action.complain (heading ++ ascii ": I/O error")
  return status ||| 1

/-- Prints a line, with the status that the command then has. -/
def sayLine (octets : Bytes) (status : Nat) : Action Nat :=
  say (octets ++ [0x0A]) status

/-- The count that an argument gives. -/
def demandCount (arg : Bytes) : Action Nat :=
  match Arithmetic.count? arg with
  | some count => return count
  | none => Action.fail (ascii "Illegal number: " ++ arg)

/-! ### Options -/

/-- The letters of options, each with whether an argument goes with it. -/
abbrev Letters : Type :=
  List (Char × Bool)

/-- Reads the letters of one argument: the options with their arguments, and the arguments after
them. -/
def readLetters (known : Letters) (rest : List Bytes) :
    List UInt8 → Action (List (Char × Bytes) × List Bytes)
  | [] => return ([], rest)
  | octet :: octets => do
    let letter := Char.ofNat octet.toNat
    match known.lookup letter, octets, rest with
    | none, _, _ => Action.fail (ascii "Illegal option -" ++ [octet])
    | some false, octets, rest =>
      let (options, rest) ← readLetters known rest octets
      return ((letter, []) :: options, rest)
    | some true, [], [] => Action.fail (ascii "No arg for -" ++ octet :: ascii " option")
    | some true, [], arg :: rest => return ([(letter, arg)], rest)
    | some true, octets, rest => return ([(letter, octets)], rest)

/-- Reads options, up to the first argument that is none: the options with their arguments, and the
arguments after them. -/
def readOptions (known : Letters) : Nat → List Bytes → Action (List (Char × Bytes) × List Bytes)
  | fuel + 1, (0x2D :: octet :: octets) :: rest => do
    if octet = 0x2D && octets = [] then return ([], rest)
    let (options, rest) ← readLetters known rest (octet :: octets)
    let (more, rest) ← readOptions known fuel rest
    return (options ++ more, rest)
  | _, args => return ([], args)

/-- Reads options. -/
def takeOptions (known : Letters) (args : List Bytes) :
    Action (List (Char × Bytes) × List Bytes) :=
  readOptions known args.length args

/-- Passes over the mark that ends options, where there are none. -/
def withoutOptions (args : List Bytes) : Action (List Bytes) := do
  return (← takeOptions [] args).2

/-- A text between quotes, from which a shell reads it again. -/
def quoted (octets : Bytes) : Bytes :=
  let rec go (fuel : Nat) (octets : Bytes) : Bytes :=
    let text := octets.takeWhile (· ≠ 0x27)
    let rest := octets.drop text.length
    let quotes := rest.takeWhile (· = 0x27)
    let after := rest.drop quotes.length
    let shown := 0x27 :: text ++ [0x27] ++ if quotes = [] then [] else 0x22 :: quotes ++ [0x22]
    match fuel with
    | 0 => shown
    | fuel + 1 => if after = [] then shown else shown ++ go fuel after
  go octets.length octets

example : quoted (ascii "a'b") = ascii "'a'\"'\"'b'" := by decide +kernel

/-! ### Commands -/

/-- Does nothing, with a status. -/
def nothing (status : Nat) : Builtin :=
  fun _ => return status

/-- Prints its arguments. -/
def echo : Builtin :=
  fun args => say (Printing.echo args) 0

/-- Prints arguments by a format. -/
def printf : Builtin := fun args => do
  match ← withoutOptions args with
  | [] => Action.fail (ascii "usage: printf format [arg ...]")
  | format :: args =>
    let progress := Printing.printf format args
    for words in progress.complaints do
      Action.complain words
    let status := if progress.isMalformed then 2 else if progress.complaints.isEmpty then 0 else 1
    say progress.octets status

/-- Shows how much time the processes have taken, which is none. -/
def times : Builtin := fun _ =>
  let line := ascii "0m0.000000s 0m0.000000s\n"
  say (line ++ line) 0

end Builtin

end Shell

end HostProvision
