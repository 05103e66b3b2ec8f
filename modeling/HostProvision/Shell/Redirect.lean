import HostProvision.Shell.Expansion

/-! # Redirections

How descriptors are connected to files, to texts in the script and to each other. All names are
expanded before anything is opened; what cannot be opened makes the shell break off. -/

namespace HostProvision

namespace Shell

open Host (Device FileTree Rights)

/-- What a descriptor is to be connected to, after expansion. -/
inductive Connection where
  /-- What another descriptor is connected to. -/
  | duplicate (descriptor : Nat)
  /-- Nothing. -/
  | nothing
  /-- A file. -/
  | file (use : FileUse) (path : Bytes)
  /-- A text in the script. -/
  | document (index : Nat)
  deriving DecidableEq, Repr

/-- The words for a file that cannot be opened. -/
def openFailure (mayCreate : Bool) (path : Bytes) (cause : IoError) : Bytes :=
  let reason :=
    if cause = .noSuchEntry || cause = .notADirectory then
      if mayCreate then "Directory nonexistent" else "No such file"
    else match cause with
      | .system errno => (IoError.description? errno.toInt).getD ""
      | .other text => text
  ascii (if mayCreate then "cannot create " else "cannot open ") ++ path ++ ascii (": " ++ reason)

/-- The stream of a device. -/
def deviceStream (state : State) (device : Device) (canRead canWrite : Bool) :
    Except IoError (Stream × Shared) :=
  match device with
  | .terminal => .error .noSuchDevice
  | .descriptor number =>
    match state.descriptors.lookup number with
    | none => .error .noSuchEntry
    | some stream =>
      match stream.channel with
      | .file location _ _ => .ok (state.shared.openFile location canRead canWrite false)
      | channel => .ok (⟨channel, canRead, canWrite⟩, state.shared)
  | device => .ok (⟨.device device, canRead, canWrite⟩, state.shared)

/-- Opens a file for reading. -/
def openForReading (state : State) (path : Bytes) : Except IoError (Stream × Shared) :=
  match state.find path with
  | .error cause => .error cause
  | .ok (.free _) => .error .noSuchEntry
  | .ok (.present location (.file rights _)) =>
    if rights.canRead then .ok (state.shared.openFile location true false false)
    else .error .accessDenied
  | .ok (.present _ (.device device)) => deviceStream state device true false
  | .ok (.present ..) => .ok (.reading (.device .null), state.shared)

/-- Opens a file for writing, or for reading and writing; what it holds may be taken out. -/
def openForWriting (state : State) (path : Bytes) (canRead isAtEnd isEmptied : Bool) :
    Except IoError (Stream × Shared) := do
  let rights := Rights.ofMode (0o666 &&& (0o777 ^^^ state.fileMask))
  let (opened, tree) ← state.shared.tree.openForWriting state.directory rights path
  let state := { state with shared := { state.shared with tree } }
  match opened with
  | .device device => deviceStream state device canRead true
  | .file location =>
    let tree := match tree.item? location with
      | some (.file rights content) =>
        tree.put location (.file rights (if isEmptied then [] else content))
      | _ => tree
    .ok ({ state.shared with tree }.openFile location canRead true isAtEnd)

/-- Opens a file. -/
def openFile (use : FileUse) (path : Bytes) : Action Stream := do
  let state ← get
  let result := match use with
    | .read => openForReading state path
    | .append => openForWriting state path false true false
    | .readWrite =>
      match state.find path with
      | .ok (.present _ (.file rights _)) =>
        if rights.canRead then openForWriting state path true false false
        else .error .accessDenied
      | _ => openForWriting state path true false false
    | .write isProtected =>
      match state.find path with
      | .ok (.present _ (.file ..)) | .ok (.present _ (.tool _)) =>
        if isProtected && state.has .keepsFiles then .error .alreadyExists
        else openForWriting state path false false true
      | _ => openForWriting state path false false true
  match result with
  | .ok (stream, shared) =>
    modify fun state => { state with shared }
    return stream
  | .error cause => Action.fail (openFailure (use ≠ .read) path cause)

variable (output : Command → Action Bytes)

/-- Complains about something that does not name a descriptor, at the line that has been read last. -/
def refuseDescriptor {α : Type} : Action α := do
  modify fun state => { state with line := state.readLine }
  Action.fail (ascii "Syntax error: Bad fd number")

/-- What a redirection asks for, after expansion. -/
def expandTarget : Target → Action Connection
  | .nothing => return .nothing
  | .descriptor number => return .duplicate number
  | .document index => return .document index
  | .file use path => return .file use (← expandText output path)
  | .descriptorNamed word => do
    let name := charsOf (← expandText output word)
    match name with
    | ['-'] => return .nothing
    | [c] =>
      if c.isDigit then return .duplicate (decimalValue name)
      refuseDescriptor
    | _ => refuseDescriptor

/-- What redirections ask for, after expansion. -/
def expandTargets : List Redirection → Action (List (Nat × Connection))
  | [] => return []
  | .connect descriptor target :: rest => do
    let connection ← expandTarget output target
    return (descriptor, connection) :: (← expandTargets rest)

/-- Connects a descriptor, which may be put aside before; then its place is empty if there is nothing
to connect it to. -/
def connect (putsAside : Bool) (descriptor : Nat) : Connection → Action Unit
  | .nothing => modify fun state => state.connect descriptor none
  | .duplicate source => do
    let state ← get
    match state.descriptors.lookup source with
    | some stream => set (state.connect descriptor (some stream))
    | none =>
      if source ≠ descriptor then
        if putsAside then set (state.connect descriptor none)
        Action.fail (ascii (toString source ++ ": Bad file descriptor"))
  | .file use path => do
    let stream ← openFile use path
    modify fun state => state.connect descriptor (some stream)
  | .document index => do
    let word := ((← get).documents.lookup index).getD []
    let octets ← expandDocument output word
    let state ← get
    let (stream, shared) := state.shared.openText octets
    set ({ state with shared }.connect descriptor (some stream))

/-- Connects descriptors one after another. -/
def connectAll (putsAside : Bool) : List (Nat × Connection) → Action Unit
  | [] => return
  | (descriptor, connection) :: rest => do
    connect output putsAside descriptor connection
    connectAll putsAside rest

/-- Connects descriptors. The result is whether that went well; if not, the status says so. -/
def connected (connections : List (Nat × Connection)) : Action Bool := do
  match ← Action.attempt (connectAll output true connections) with
  | none => return true
  | some .error => return false
  | some reason => throw reason

/-- The state after something, with descriptors connected as before it. What only they led to is
forgotten, unless a job may still need it. -/
def State.reconnect (descriptors : List Redirection) (before after : State) : State :=
  let after := descriptors.foldl (fun state redirection =>
    match redirection with
    | .connect descriptor _ =>
      state.connect descriptor (before.descriptors.lookup descriptor)) after
  if after.jobs.any fun job => job.start.isSome then after
  else
    let kept := after.descriptors.filterMap fun entry => entry.2.channel.number?
    { after with shared := after.shared.forget before.shared.numberCount kept }

/-- Does something, after which the descriptors of some redirections are connected as before. -/
def keepingDescriptors {α : Type} (redirections : List Redirection) (action : Action α) :
    Action α :=
  if redirections.isEmpty then action else Action.mending (.reconnect redirections) action

/-- Nothing has to be done where there are no redirections. -/
@[simp] theorem connectAll_nil (putsAside : Bool) : connectAll output putsAside [] = pure () :=
  rfl

end Shell

end HostProvision
