import HostProvision.Shell.Arithmetic
import HostProvision.Shell.State

/-! # Variables

How the variables of a shell are looked up and changed. A variable that cannot be assigned makes the
shell break off. A change of `PATH` makes it forget where programs are, and a change of `OPTIND` says
which argument is to be looked at next for options. A frame holds what is brought back when a command
with variables of its own ends. -/

namespace HostProvision

namespace Shell

namespace State

/-- A variable that is known. -/
def binding? (state : State) (name : String) : Option Variable :=
  state.bindings.lookup name

/-- The value of a variable that is set. -/
def value? (state : State) (name : String) : Option Bytes :=
  (state.binding? name).bind (·.value)

/-- The value of a variable; an unset one counts as empty. -/
def valueOf (state : State) (name : String) : Bytes :=
  (state.value? name).getD []

/-- Puts a variable in the place of the one of the same name, or takes it away. -/
def bind (state : State) (name : String) (binding : Option Variable) : State :=
  let others := state.bindings.filter fun entry => entry.1 ≠ name
  { state with
    bindings := (binding.map fun binding => (name, binding)).toList ++ others }

/-- What has been put in a variable's place is found there. -/
@[simp] theorem binding?_bind (state : State) (name : String) (binding : Variable) :
    (state.bind name (some binding)).binding? name = some binding := by
  simp [bind, binding?]

/-- Gives a variable a value without more ado. -/
def setValue (state : State) (name : String) (value : Bytes) : State :=
  state.bind name (some { (state.binding? name).getD {} with value := some value })

/-- A variable has the value that it has been given. -/
@[simp] theorem value?_setValue (state : State) (name : String) (value : Bytes) :
    (state.setValue name value).value? name = some value := by
  simp [setValue, value?]

/-- Whether a variable cannot be assigned. -/
def isReadOnly (state : State) (name : String) : Bool :=
  (state.binding? name).any (·.isReadOnly)

/-- White space between fields. -/
def blanks : Bytes := [0x20, 0x09, 0x0A]

/-- The octets at which unquoted text is split into fields. -/
def separators (state : State) : Bytes :=
  (state.value? "IFS").getD blanks

/-- What stands between arguments that are joined. -/
def joint (state : State) : Bytes :=
  state.separators.take 1

/-- The variables that other programs see. -/
def exported (state : State) : List (String × Bytes) :=
  state.bindings.filterMap fun (name, binding) =>
    if binding.isExported then binding.value.map fun value => (name, value) else none

end State

namespace Action

/-- Does what a new value of a variable asks for. -/
def noteChange (name : String) (value : Option Bytes) : Action Unit := do
  if name = "PATH" then modify fun state => { state with hashed := [] }
  else if name = "OPTIND" then
    let text := value.getD (ascii "1")
    match Arithmetic.count? text with
    | some index =>
      modify fun state => { state with optionIndex := max 1 index, optionOffset := none }
    | none => fail (ascii "Illegal number: " ++ text)

/-- Gives a variable a value, or none, and marks it. -/
def assignWith (mark : Variable → Variable) (name : String) (value : Option Bytes) :
    Action Unit := do
  if (← get).isReadOnly name then fail (octetsOf name ++ ascii ": is read only")
  noteChange name value
  modify fun state =>
    let before := (state.binding? name).getD {}
    let isExported := before.isExported || state.has .exportsAll
    state.bind name (some (mark { before with value, isExported }))

/-- Assigns a variable. -/
def assign (name : String) (value : Bytes) : Action Unit :=
  assignWith id name (some value)

/-- The name that an argument gives, before a value that may follow it. -/
def nameIn (arg : Bytes) : Action String := do
  let octets := arg.takeWhile (· ≠ 0x3D)
  let name := nameOf octets
  if !isName name then fail (octets ++ ascii ": bad variable name")
  return name

/-- Unsets a variable. -/
def remove (name : String) : Action Unit := do
  match (← get).binding? name with
  | none => return
  | some binding =>
    assignWith id name none
    unless binding.isLasting do modify fun state => state.bind name none

/-! ### Frames -/

/-- Notes what is brought back at the end of the innermost frame. -/
def save (saved : Saved) : Action Unit :=
  modify fun state =>
    match state.frames with
    | frame :: frames => { state with frames := (saved :: frame) :: frames }
    | [] => state

/-- Makes a variable of the innermost frame, with a value or with that of the variable outside. -/
def makeLocal (mark : Variable → Variable) (name : String) (value : Option Bytes) :
    Action Unit := do
  let before := (← get).binding? name
  match before, value with
  | some binding, none => modify fun state => state.bind name (some { binding with isLasting := true })
  | _, value => assignWith (fun binding => mark { binding with isLasting := true }) name value
  save (.variable name before)

/-- Brings something back. What has no name of a variable cannot be unset again. -/
def restore : Saved → Action Unit
  | .toggles toggles => modify fun state => { state with toggles }
  | .variable name (some before) => do
    modify fun state => state.bind name (some before)
    discard <| attempt (noteChange name before.value)
  | .variable name none => do
    modify fun state =>
      let unlocked := (state.binding? name).map fun binding =>
        { binding with isReadOnly := false, isLasting := false }
      state.bind name unlocked
    remove (← nameIn (octetsOf name))

/-- Does something in a frame of its own, at whose end is brought back what was noted. -/
def inFrame {α : Type} (action : Action α) : Action α := do
  modify fun state => { state with frames := [] :: state.frames }
  let frames := (← get).frames.drop 1
  ExceptT.mk do
    let result ← action.run
    let frame := ((← get).frames.head?).getD []
    modify fun state => { state with frames }
    match ← (frame.forM restore : Action Unit).run with
    | .ok () => return result
    | .error reason => return .error reason

end Action

end Shell

end HostProvision
