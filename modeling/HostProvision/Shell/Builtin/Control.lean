import HostProvision.Shell.Builtin.Output

/-! # Commands that break off

`exit`, `return`, `break` and `continue`, and the options and arguments of the shell, which `set`,
`shift` and `getopts` are about. -/

namespace HostProvision

namespace Shell

namespace Builtin

/-- Ends the shell, with a status that may be given. In a trap the status is the one before it. -/
def exit : Builtin := fun args => do
  if let arg :: _ := args then
    let status ← demandCount arg
    modify fun state => { state with trapStatus := some status }
  throw .exit

/-- Leaves a function or a script, with a status that may be given. -/
def leaveFunction : Builtin := fun args => do
  if let arg :: _ := args then Action.setStatus (← demandCount arg)
  throw (.returned !args.isEmpty)

/-- Leaves loops, as many as an argument says; outside loops this does nothing. -/
def leaveLoops (reason : Nat → Break) : Builtin := fun args => do
  let levels ← match args with
    | [] => pure 1
    | arg :: _ => do
      let levels ← demandCount arg
      if levels = 0 then Action.fail (ascii "Illegal number: " ++ arg)
      pure levels
  let loops := (← get).loops
  if loops = 0 then return 0
  Action.setStatus 0
  throw (reason (min levels loops))

/-! ### Options of the shell -/

/-- Sets an option, or takes it back. -/
def toggle (isSet : Bool) (option : Toggle) : Action Unit :=
  modify fun state =>
    let rival : Option Toggle := match option with
      | .viEditing => some .emacsEditing
      | .emacsEditing => some .viEditing
      | _ => none
    let others := state.toggles.filter fun known =>
      known ≠ option && !(isSet && rival = some known)
    { state with toggles := if isSet then option :: others else others }

/-- Shows all options, in words or as commands. -/
def showToggles (inWords : Bool) : Action Nat := do
  let state ← get
  let line (entry : Toggle × String × Option Char) : String :=
    let (toggle, name, _) := entry
    let isSet := state.has toggle
    if inWords then name ++ String.ofList (List.replicate (16 - name.length) ' ') ++
      (if isSet then "on" else "off") ++ "\n"
    else "set " ++ (if isSet then "-o " else "+o ") ++ name ++ "\n"
  let title := if inWords then "Current option settings\n" else ""
  say (ascii (title ++ String.join (Toggle.table.map line))) 0

/-- What has been read of options: the arguments after them, whether a mark ended them, and whether a
script is given as an argument. -/
structure TogglesRead where
  /-- The arguments after the options. -/
  rest : List Bytes
  /-- Whether there is a mark that says that arguments follow. -/
  isMarked : Bool := false
  /-- Whether the letter for a script was among the options. -/
  hasScript : Bool := false
  deriving Repr

/-- Sets options by the letters of one argument. The result is the arguments after it, and whether
the letter for a script was among them. -/
def setLetters (atStart isSet : Bool) : List UInt8 → List Bytes → Action (List Bytes × Bool)
  | [], rest => return (rest, false)
  | octet :: octets, rest => do
    let letter := Char.ofNat octet.toNat
    if atStart && letter = 'c' then
      let (rest, _) ← setLetters atStart isSet octets rest
      return (rest, true)
    if atStart && letter = 'l' then return ← setLetters atStart isSet octets rest
    if letter = 'o' then
      match rest with
      | [] =>
        discard <| showToggles isSet
        setLetters atStart isSet octets []
      | name :: rest =>
        match Toggle.ofName? (nameOf name) with
        | some option => toggle isSet option
        | none => Action.fail (ascii "Illegal option -o " ++ name)
        setLetters atStart isSet octets rest
    else
      match Toggle.ofLetter? letter with
      | some option => toggle isSet option
      | none => Action.fail (ascii "Illegal option -" ++ [octet])
      setLetters atStart isSet octets rest

/-- Sets options by arguments. -/
def setToggles (atStart : Bool) : Nat → List Bytes → Action TogglesRead
  | fuel + 1, (sign :: octets) :: rest => do
    if sign = 0x2D && (octets = [] || octets = [0x2D]) then
      if octets = [] && !atStart then
        toggle false .traces
        toggle false .verbose
      return ⟨rest, octets = [0x2D], false⟩
    if sign ≠ 0x2D && sign ≠ 0x2B then return ⟨(sign :: octets) :: rest, false, false⟩
    let (rest, hasScript) ← setLetters atStart (sign = 0x2D) octets rest
    let read ← setToggles atStart fuel rest
    return { read with hasScript := hasScript || read.hasScript }
  | _, args => return { rest := args }

/-- Refuses to control jobs, as there is no terminal. -/
def refuseMonitor : Action Unit := do
  if (← get).has .monitor then
    Action.complain (ascii "can't access tty; job control turned off")
    toggle false .monitor

/-- Gives the shell arguments. -/
def setArgs (args : List Bytes) : Action Unit :=
  modify fun state => { state with args, optionIndex := 1, optionOffset := none }

/-- Shows variables in order, each after a word that begins its line. -/
def showVariables (title : Bytes) (isShown : Variable → Bool) : Action Nat := do
  let shown := (← get).bindings.filter fun (_, binding) => isShown binding
  let sorted := shown.mergeSort fun a b =>
    Host.FileTree.precedes (octetsOf a.1) (octetsOf b.1)
  let line (entry : String × Variable) : Bytes :=
    let value := match entry.2.value with
      | some value => 0x3D :: quoted value
      | none => []
    title ++ octetsOf entry.1 ++ value ++ [0x0A]
  say (sorted.flatMap line) 0

/-- Sets options and arguments; without arguments shows the variables. -/
def configure : Builtin := fun args => do
  if args = [] then return ← showVariables [] fun binding => binding.value.isSome
  let read ← setToggles false args.length args
  refuseMonitor
  if read.isMarked || read.rest ≠ [] then setArgs read.rest
  return 0

/-- Takes arguments away. -/
def shift : Builtin := fun args => do
  let count ← match args with
    | [] => pure 1
    | arg :: _ => demandCount arg
  if (← get).args.length < count then Action.fail (ascii "can't shift that many")
  setArgs ((← get).args.drop count)
  return 0

/-! ### Options of a script -/

/-- What is known of the next option of a script. -/
structure OptionFound where
  /-- The letter of the option, or a mark that there is something wrong. -/
  letter : UInt8
  /-- The argument of the option, or the letter that is wrong. -/
  argument : Option Bytes
  /-- What is wrong. -/
  complaint : Option Bytes := none
  /-- The place of the next argument. -/
  index : Nat
  /-- The place of the next letter in the argument before that. -/
  offset : Option Nat := none

/-- Whether a letter is known, and whether an argument goes with it. -/
def optionKind? (letter : UInt8) : Bytes → Option Bool
  | [] => none
  | known :: rest =>
    if known = letter then some (rest.head? = some 0x3A)
    else match rest with
      | 0x3A :: rest => optionKind? letter rest
      | rest => optionKind? letter rest

/-- Finds the next option among arguments: none at their end, together with the place of the next
argument. -/
def nextOption (known : Bytes) (args : List Bytes) (index : Nat) (offset : Option Nat) :
    OptionFound ⊕ Nat :=
  let quiet := known.head? = some 0x3A
  let found (index : Nat) (letters : Bytes) (offset : Nat) : OptionFound ⊕ Nat :=
    match letters with
    | [] => .inr index
    | letter :: rest =>
      let next := if rest = [] then none else some (offset + 1)
      match optionKind? letter known with
      | none =>
        .inl ⟨0x3F, if quiet then some [letter] else none,
          if quiet then none else some (ascii "Illegal option -" ++ [letter, 0x0A]), index,
          some (offset + 1)⟩
      | some false => .inl ⟨letter, some [], none, index, next⟩
      | some true =>
        match rest, args[index - 1]? with
        | [], none =>
          .inl ⟨if quiet then 0x3A else 0x3F, if quiet then some [letter] else none,
            if quiet then none else some (ascii "No arg for -" ++ letter :: ascii " option\n"),
            index, none⟩
        | [], some arg => .inl ⟨letter, some arg, none, index + 1, none⟩
        | rest, _ => .inl ⟨letter, some rest, none, index, none⟩
  let goneOn : Option (Bytes × Nat) := do
    let offset ← offset
    let current ← if index ≤ 1 then none else args[index - 2]?
    if offset < current.length then some (current.drop offset, offset) else none
  match goneOn with
  | some (letters, offset) => found index letters offset
  | none =>
    match args[index - 1]? with
    | some (0x2D :: first :: rest) =>
      if first = 0x2D && rest = [] then .inr (index + 1) else found (index + 1) (first :: rest) 1
    | _ => .inr index

/-- Finds the next option of the script. -/
def getopts : Builtin := fun args => do
  match args with
  | known :: name :: given =>
    let state ← get
    let options := if given = [] then state.args else given
    let (index, offset) :=
      if options.length + 1 < state.optionIndex then (1, none)
      else (state.optionIndex, state.optionOffset)
    -- Should something go wrong, the next search begins anew.
    modify fun state => { state with optionIndex := Arithmetic.maxCount, optionOffset := none }
    let finish (letter : UInt8) (index : Nat) (offset : Option Nat) : Action Unit := do
      modify fun state => state.bind "OPTIND"
        (some { (state.binding? "OPTIND").getD {} with value := some (ascii (toString index)) })
      Action.assign (← Action.nameIn name) [letter]
      modify fun state => { state with optionIndex := index, optionOffset := offset }
    match nextOption known options index offset with
    | .inr index =>
      finish 0x3F index none
      return 1
    | .inl found =>
      match found.complaint, found.argument with
      | some words, _ =>
        discard <| Action.write 2 words
        Action.remove "OPTARG"
      | none, some argument => Action.assign "OPTARG" argument
      | none, none => Action.remove "OPTARG"
      finish found.letter found.index found.offset
      return 0
  | _ => Action.fail (ascii "Usage: getopts optstring var [arg...]")

end Builtin

end Shell

end HostProvision
