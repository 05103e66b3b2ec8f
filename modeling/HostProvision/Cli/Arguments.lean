import HostProvision.Cli.Complaint
import HostProvision.Cli.Help
import HostProvision.Formula

/-! # Reading the command line

`interpret` reads the arguments of the program. Options of the program may stand before the command
or after it; everything after `--` is positional. An option whose value is the next argument takes
effect only when the following option or positional argument does, or at the end, so that the first
problem in this order is the one reported. -/

namespace HostProvision

namespace Cli

/-- What ends the reading of a command line early. -/
inductive Interruption where
  /-- The command line cannot be used. -/
  | complaint (complaint : Complaint)
  /-- Help was asked for. -/
  | help (page : Page)
  /-- Help is shown because nothing was asked for. -/
  | nothingAsked
  /-- The version was asked for. -/
  | version (command : Option CommandName)
  deriving DecidableEq, Repr

namespace Interruption

/-- The interruption by an error, with a usage line and tips. -/
def ofError (error : UsageError) (usage : Usage) (tips : List Tip := []) : Interruption :=
  .complaint { error, tips, usage? := some usage }

/-- The interruption by a missing value. -/
def ofMissingValue (option : OptionName) : Interruption :=
  .complaint { error := .missingValue option }

end Interruption

/-- What has been read at one level: before the command, or after it. -/
structure Reading where
  /-- The command, if one has been read. -/
  command : Option CommandName := none
  /-- How often more log messages were asked for. -/
  verbosity : Nat := 0
  /-- The flags that were given. -/
  flags : List OptionName := []
  /-- The options with values that have taken effect. -/
  values : List (OptionName × String) := []
  /-- The option with a value that has not taken effect, and its value once that is read. -/
  pending : Option (OptionName × Option String) := none
  /-- Whether `--` has been read. -/
  onlyPositional : Bool := false
  /-- The positional argument before `--`. -/
  name : Option String := none
  /-- The positional arguments after `--`. -/
  extra : List String := []
  /-- All arguments that have taken effect, each at the place of its last occurrence. -/
  given : List Argument := []
  deriving DecidableEq, Repr

namespace Reading

/-- Whether the next argument may be the value of an option. -/
def awaitsValue (reading : Reading) : Bool :=
  match reading.pending with
  | some (_, none) => true
  | _ => false

/-- Whether nothing was asked for at this level. -/
def isBlank (reading : Reading) : Bool :=
  reading.given.isEmpty

/-- How the command at hand is called, naming some arguments. -/
def usage (reading : Reading) (named : List Argument := []) : Usage :=
  ⟨.ofCommand? reading.command, named⟩

/-- Notes that an argument has taken effect. -/
def note (reading : Reading) (argument : Argument) : Reading :=
  { reading with given := reading.given.erase argument ++ [argument] }

/-- Some arguments and one more, unless it is among them. -/
def withArgument (arguments : List Argument) (argument : Argument) : List Argument :=
  if arguments.contains argument then arguments else arguments ++ [argument]

/-- The arguments that were given, also the one that has not taken effect if it is complete. -/
def named (reading : Reading) : List Argument :=
  match reading.pending with
  | some (option, some _) => withArgument reading.given (.option option)
  | _ => reading.given

/-- Makes an option with its value take effect. -/
def setValue (reading : Reading) (option : OptionName) (value : String) :
    Except Interruption Reading :=
  if (reading.values.lookup option).isSome then
    .error (.ofError (.repeatedOption option) reading.usage)
  else if value.isEmpty ∧ !option.admitsEmpty then .error (.ofMissingValue option)
  else .ok ({ reading with values := reading.values ++ [(option, value)] }.note (.option option))

/-- Makes the pending option take effect. -/
def settle (reading : Reading) : Except Interruption Reading :=
  match reading.pending with
  | none => .ok reading
  | some (option, none) => .error (.ofMissingValue option)
  | some (option, some value) => { reading with pending := none }.setValue option value

/-- Makes an option without a value take effect. -/
def setFlag (reading : Reading) (option : OptionName) : Except Interruption Reading := do
  let reading ← reading.settle
  match option with
  | .help => throw (.help (.ofCommand? reading.command))
  | .version => throw (.version reading.command)
  | .verbose =>
    return { reading with verbosity := reading.verbosity + 1 }.note (.option .verbose)
  | option =>
    if reading.flags.contains option then
      throw (.ofError (.repeatedOption option) reading.usage)
    else return { reading with flags := reading.flags ++ [option] }.note (.option option)

/-- Whether an argument that looks like an option could be meant as a positional one. -/
def admitsPositional (reading : Reading) : Bool :=
  reading.command = some .ensure

/-- The options of later commands that a text may be meant for, for each command the most similar
one, with the place where the command is found. -/
def laterOptions (text : String) (rest : List String) : List (Nat × CommandName × OptionName) :=
  CommandName.all.filterMap fun command => do
    let option ← (similarOptions (some command) text).getLast?
    let place ← rest.idxOf? command.spelling
    return (place, command, option)

/-- The complaint about an option that does not exist, by its long spelling. -/
def unknownOption (reading : Reading) (spelling : String) (rest : List String) : Interruption :=
  let argument := "--" ++ spelling
  match (similarOptions reading.command spelling).getLast? with
  | some option =>
    .ofError (.unexpectedArgument argument)
      (reading.usage (withArgument reading.named (.option option))) [.similarOption option]
  | none =>
    let later := if reading.command.isNone then laterOptions spelling rest else []
    let tips := match later.find? fun entry => later.all fun other => entry.1 ≤ other.1 with
      | some (_, command, option) => [.optionOf command option]
      | none => if reading.admitsPositional then [.asValue argument] else []
    .ofError (.unexpectedArgument argument) (reading.usage reading.named) tips

/-- Reads an option by its long spelling, with the value attached to it if there is one. -/
def readLong (reading : Reading) (spelling : String) (attached : Option String)
    (rest : List String) : Except Interruption Reading :=
  match longOption? reading.command spelling with
  | none => .error (reading.unknownOption spelling rest)
  | some option =>
    if option.takesValue then do
      let reading ← reading.settle
      match attached with
      | some value => reading.setValue option value
      | none => return { reading with pending := some (option, none) }
    else match attached with
      | some value =>
        .error (.ofError (.unexpectedValue value option)
          (reading.usage (withArgument reading.given (.option option))))
      | none => reading.setFlag option

/-- Reads options by their letters. -/
def readShort (reading : Reading) : List Char → Except Interruption Reading
  | [] => .ok reading
  | letter :: rest =>
    match shortOption? reading.command letter with
    | none =>
      let argument := "-" ++ String.singleton letter
      .error (.ofError (.unexpectedArgument argument) reading.usage
        (if reading.admitsPositional then [.asValue argument] else []))
    | some option => do
      let reading ← reading.setFlag option
      reading.readShort rest

/-- The complaint about a command that does not exist. -/
def unknownCommand (reading : Reading) (text : String) : Interruption :=
  if reading.onlyPositional ∧ commandNames.contains text then
    .ofError (.unexpectedArgument text) reading.usage [.withoutDashes text]
  else
    let similar := Text.Similarity.closeTo text id commandNames
    .ofError (.unknownCommand text) reading.usage
      (if similar.isEmpty then [] else [.similarCommands similar])

/-- Reads a positional argument. -/
def readPositional (reading : Reading) (text : String) : Except Interruption Reading :=
  match reading.command with
  | none => .error (reading.unknownCommand text)
  | some .ensure => do
    if reading.onlyPositional then
      let reading ← reading.settle
      return { reading with extra := reading.extra ++ [text] }.note .extra
    else if reading.name.isSome then
      throw (.ofError (.unexpectedArgument text) reading.usage)
    else
      let reading ← reading.settle
      return { reading with name := some text }.note .name
  | some _ => .error (.ofError (.unexpectedArgument text) reading.usage)

/-- Reads one argument, given those after it. -/
def read (reading : Reading) (text : String) (rest : List String) :
    Except Interruption Reading :=
  if reading.onlyPositional then reading.readPositional text
  else match text.toList with
    | ['-', '-'] => .ok { reading with onlyPositional := true }
    | '-' :: '-' :: chars =>
      let spelling := String.ofList (chars.takeWhile (· ≠ '='))
      let attached := match chars.dropWhile (· ≠ '=') with
        | [] => none
        | _ :: value => some (String.ofList value)
      reading.readLong spelling attached rest
    | '-' :: letter :: letters => reading.readShort (letter :: letters)
    | _ =>
      match reading.pending with
      | some (option, none) => .ok { reading with pending := some (option, some text) }
      | _ => reading.readPositional text

/-- Reads all arguments. -/
def readAll (reading : Reading) : List String → Except Interruption Reading
  | [] => reading.settle
  | text :: rest => do
    let reading ← reading.read text rest
    reading.readAll rest

end Reading

/-- The options that every command takes. -/
structure GlobalOptions where
  /-- How often more log messages were asked for. -/
  verbosity : Nat := 0
  /-- The directory for log files. -/
  logDirectory : Option String := none
  deriving DecidableEq, Repr

/-- What the command that provisions the host was asked to do. -/
structure RunOptions where
  /-- The compiler that was chosen. -/
  compiler : Option String := none
  /-- Whether to do a dry run. -/
  dryRun : Bool := false
  /-- The file that collects search path entries. -/
  pathFile : Option String := none
  deriving DecidableEq, Repr

/-- What the command that ensures a formula was asked to do. -/
structure EnsureOptions where
  /-- The formula. -/
  formula : Formula
  /-- Whether to do a dry run. -/
  dryRun : Bool := false
  deriving DecidableEq, Repr

/-- A command with its options. -/
inductive Task where
  /-- To provision the host. -/
  | run (options : RunOptions)
  /-- To ensure one formula. -/
  | ensure (options : EnsureOptions)
  /-- To list the compilers. -/
  | compilers
  deriving DecidableEq, Repr

/-- What the program was asked to do. -/
structure Invocation where
  /-- The options that every command takes. -/
  globals : GlobalOptions
  /-- The command. -/
  task : Task
  deriving DecidableEq, Repr

namespace Reading

/-- The command that the arguments after its name describe. The chosen compiler may also come from a
variable of the environment. -/
def task (reading : Reading) (compilerVariable : Option Bytes) (command : CommandName) :
    Except Interruption Task :=
  let dryRun := reading.flags.contains .dryRun
  match command with
  | .run => do
    let compiler ← match reading.values.lookup .compiler, compilerVariable with
      | some value, _ => pure (some value)
      | none, none => pure none
      | none, some octets =>
        match Utf8.decode? octets with
        | some value => pure (some value)
        | none => throw (.ofError .invalidText reading.usage)
    return .run { compiler, dryRun, pathFile := reading.values.lookup .pathFile }
  | .ensure =>
    match reading.name with
    | some name => return .ensure { formula := ⟨name, reading.extra⟩, dryRun }
    | none =>
      throw (.ofError .missingArguments (reading.usage (withArgument reading.given .name)))
  | .compilers => return .compilers

/-- The options for every command, where those after the command count more than those before. -/
def globals (before after : Reading) : GlobalOptions where
  verbosity := if after.verbosity = 0 then before.verbosity else after.verbosity
  logDirectory := (after.values.lookup .logDirectory).or (before.values.lookup .logDirectory)

end Reading

/-- The page that the arguments of the help command ask for. -/
def helpPage : Page → List String → Interruption
  | page, [] => .help page
  | .program, text :: rest =>
    if text = "help" then helpPage .helpCommand rest
    else match CommandName.ofSpelling? text with
      | some command => helpPage (.command command) rest
      | none => .ofError (.unknownCommand text) { page := .program }
  | page, text :: _ => .ofError (.unknownCommand text) { page }

/-- Reads the arguments from a point before the command. -/
def interpretFrom (compilerVariable : Option Bytes) (reading : Reading) :
    List String → Except Interruption Invocation
  | [] => do
    let reading ← reading.settle
    throw (if reading.isBlank then .nothingAsked else .ofError .missingCommand reading.usage)
  | text :: rest =>
    let mayBeCommand := !reading.onlyPositional && !reading.awaitsValue
    if mayBeCommand ∧ text = "help" then .error (helpPage .program rest)
    else match if mayBeCommand then CommandName.ofSpelling? text else none with
      | some command => do
        -- What is wrong after the command is found before what is wrong in front of it.
        let after ← Reading.readAll { command := some command } rest
        let task ← after.task compilerVariable command
        let before ← reading.settle
        return ⟨before.globals after, task⟩
      | none => do
        let reading ← reading.read text rest
        interpretFrom compilerVariable reading rest

/-- What the arguments of the program ask for, given the variable that can stand in for the chosen
compiler. -/
def interpret (compilerVariable : Option Bytes) (args : List String) :
    Except Interruption Invocation :=
  interpretFrom compilerVariable {} args

example : (interpret none ["ensure", "x", "--", "-v"]).toOption =
    some ⟨{}, .ensure { formula := ⟨"x", ["-v"]⟩ }⟩ := by decide +kernel
example : (interpret none ["-v", "run", "--compiler=gcc-5"]).toOption =
    some ⟨{ verbosity := 1 }, .run { compiler := some "gcc-5" }⟩ := by decide +kernel
example : (interpret none ["--log-dir", "run"]).toOption = none := by decide +kernel

end Cli

end HostProvision
