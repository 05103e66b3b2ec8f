import HostProvision.Shell.Field
import HostProvision.Shell.Word

/-! # Expansion

How a word becomes pieces: parameters, integer expressions and what commands print take the places
of their parts, and a tilde at the beginning stands for a home directory. A `Purpose` says what
becomes of the pieces: words of commands are split into fields that are matched with files, while a
value, the name of a file or a text in the script stays in one. What a command prints is found by a
function that everything here is given. -/

namespace HostProvision

namespace Shell

/-- What a word is expanded for. -/
structure Purpose where
  /-- Whether the result is split into fields. -/
  inFields : Bool := false
  /-- Whether the word is quoted. -/
  isQuoted : Bool := false
  /-- Whether text that is not quoted is split as well. -/
  splitsText : Bool := false
  /-- Whether a tilde after a colon stands for a home directory. -/
  afterColons : Bool := false
  deriving DecidableEq, Repr

namespace Parameter

/-- How a parameter is shown in complaints. -/
def shown : Parameter → Bytes
  | named name => octetsOf name
  | position index => ascii (toString index)
  | all false => ascii "@"
  | all true => ascii "*"
  | count => ascii "#"
  | status => ascii "?"
  | process => ascii "$"
  | options => ascii "-"
  | background => ascii "!"

end Parameter

namespace State

/-- The text that a parameter stands for, if it is set. Arguments that stand apart have a zero
between them. -/
def parameter? (state : State) (purpose : Purpose) : Parameter → Option Bytes
  | .named name => state.value? name
  | .position 0 => some state.name
  | .position (index + 1) => state.args[index]?
  | .all isJoined =>
    let isApart := purpose.inFields &&
      (if purpose.isQuoted then !isJoined else state.joint.isEmpty)
    some ((if isApart then [0] else state.joint).intercalate state.args)
  | .count => some (ascii (toString state.args.length))
  | .status => some (ascii (toString state.status))
  | .process => some (ascii (toString state.script))
  | .options => some (ascii state.letters)
  | .background => state.background.map fun number => ascii (toString number)

/-- The pieces that the text of a parameter makes. -/
def valuePieces (state : State) (purpose : Purpose) (parameter : Parameter) (text : Bytes) :
    List Piece :=
  if !purpose.isQuoted then [.region false (marked text false)]
  else if parameter = .all false && !state.args.isEmpty then [.region true (marked text true)]
  else [.literal (marked text true)]

/-- The home directory of a user, or of the user who runs the shell. -/
def home? (state : State) (user : Bytes) : Option Bytes :=
  if user = [] then state.value? "HOME"
  else
    let known := [("root", "/root"), ("daemon", "/usr/sbin"), ("bin", "/bin"), ("sys", "/dev"),
      ("nobody", "/nonexistent")]
    (known.find? fun (name, _) => ascii name = user).map fun (_, home) => ascii home

/-- What a text that begins with a tilde becomes, given whether the word ends with it. -/
def expandTilde (state : State) (isEnd : Bool) (octets : Bytes) : Option (Bytes × Bytes) :=
  match octets with
  | 0x7E :: rest =>
    let user := rest.takeWhile (· ≠ Path.slash)
    let after := rest.drop user.length
    if after = [] && !isEnd then none else (state.home? user).map fun home => (home, after)
  | _ => none

/-- The pieces of text, given whether a tilde may begin it and whether the word ends with it. -/
def textPieces (state : State) (purpose : Purpose) (mayBegin isEnd : Bool) (octets : Bytes) :
    List Piece :=
  let piece (octets : Bytes) : List Piece :=
    if octets = [] then []
    else if purpose.splitsText then [.region false (marked octets false)]
    else [.literal (marked octets purpose.isQuoted)]
  let segment (mayBegin isEnd : Bool) (octets : Bytes) : List Piece :=
    match if mayBegin then state.expandTilde isEnd octets else none with
    | some (home, rest) => .literal (marked home true) :: piece rest
    | none => piece octets
  if purpose.isQuoted then piece octets
  else if !purpose.afterColons then segment mayBegin isEnd octets
  else
    let segments := octets.splitOn 0x3A
    let last := segments.length - 1
    (segments.zipIdx.map fun (octets, index) =>
      (if index = 0 then [] else piece [0x3A]) ++
        segment (mayBegin || 0 < index) (isEnd || index < last) octets).flatten

end State

/-- The value of the integer expression that a text stands for. -/
def evalArithmetic (text : Bytes) : Action Int64 := do
  let state ← get
  let (result, assigned) :=
    Arithmetic.value ⟨state.valueOf, state.isReadOnly⟩ (charsOf text)
  for (name, value) in assigned.reverse do
    Action.assign name (Arithmetic.text value)
  match result with
  | .ok value => return value
  | .error (.complaint words) =>
    Action.fail (ascii ("arithmetic expression: " ++ words ++ ": \"") ++ text ++ ascii "\"")
  | .error (.illegalNumber number) => Action.fail (ascii "Illegal number: " ++ number)
  | .error (.readOnly name) => Action.fail (octetsOf name ++ ascii ": is read only")
  | .error .overflow => throw (.killed 8)

/-- The octets of pieces that stay together. -/
def joinPieces (pieces : List Piece) : Bytes :=
  pieces.flatMap fun piece => plain piece.octets

variable (output : Command → Action Bytes)

mutual

/-- The pieces that a part of a word expands to, given whether it begins and whether it ends the
word. -/
def expandPart (purpose : Purpose) (isStart isEnd : Bool) : Fragment → Action (List Piece)
  | .text octets => return (← get).textPieces purpose isStart isEnd octets
  | .escaped octet => return [.literal [(octet, true)]]
  | .quoted parts => do
    match parts with
    | [.parameter (.all false) .plain []] =>
      if purpose.isQuoted then
        let part := .parameter (.all false) .plain []
        return .mark :: (← expandPart purpose false false part) ++ [.mark]
      -- Arguments by themselves make no field if there are none.
      let state ← get
      let purpose := { purpose with isQuoted := true }
      match state.parameter? purpose (.all false) with
      | some text => return state.valuePieces purpose (.all false) text
      | none => return []
    | parts =>
      let inner := { purpose with isQuoted := true, splitsText := false }
      return .mark :: (← expandParts inner false parts) ++ [.mark]
  | .parameter parameter form word => do
    let state ← get
    let text? := state.parameter? purpose parameter
    let isThere (emptyIsMissing : Bool) : Bool := match text? with
      | some text => !(emptyIsMissing && text = [])
      | none => false
    let ofText (text : Bytes) : List Piece := state.valuePieces purpose parameter text
    -- A parameter that is not set counts as empty, unless that is refused.
    let checked (value : Bytes → List Piece) : Action (List Piece) :=
      match text? with
      | some text => return value text
      | none =>
        if state.has .refusesUnset then
          Action.fail (parameter.shown ++ ascii ": parameter not set")
        else return value []
    let inner := { purpose with splitsText := !purpose.isQuoted }
    match form with
    | .unknown => Action.fail (ascii "Bad substitution")
    | .plain => checked fun text => if text?.isSome then ofText text else []
    | .length =>
      -- The arguments count as if they were joined.
      let whole := (state.parameter? {} parameter).getD []
      checked fun _ => ofText (ascii (toString whole.length))
    | .use emptyIsMissing =>
      if isThere emptyIsMissing then return ofText (text?.getD [])
      expandParts inner true word
    | .invert emptyIsMissing =>
      if !isThere emptyIsMissing then return ofText []
      expandParts inner true word
    | .assign emptyIsMissing =>
      if isThere emptyIsMissing then return ofText (text?.getD [])
      let text := joinPieces (← expandParts {} true word)
      let name ← Action.nameIn parameter.shown
      Action.assign name text
      return (← get).valuePieces purpose parameter text
    | .refuse emptyIsMissing =>
      if isThere emptyIsMissing then return ofText (text?.getD [])
      let given := joinPieces (← expandParts {} true word)
      let standard := ascii
        (if emptyIsMissing then "parameter not set or null" else "parameter not set")
      Action.fail (parameter.shown ++ ascii ": " ++ if word.isEmpty then standard else given)
    | .trimStart isLongest =>
      if text?.isNone then return ← checked fun _ => []
      let pattern := (← expandParts {} true word).flatMap Piece.octets
      return ofText ((Pattern.ofField pattern).trimStart isLongest (text?.getD []))
    | .trimEnd isLongest =>
      if text?.isNone then return ← checked fun _ => []
      let pattern := (← expandParts {} true word).flatMap Piece.octets
      return ofText ((Pattern.ofField pattern).trimEnd isLongest (text?.getD []))
  | .output body => do
    let octets := (← output body).filter (· ≠ 0)
    let text := (octets.reverse.dropWhile (· = 0x0A)).reverse
    if purpose.isQuoted then return [.literal (marked text true)]
    else return [.region false (marked text false)]
  | .arithmetic expression => do
    let text := joinPieces (← expandParts { isQuoted := true } false expression)
    let value := Arithmetic.text (← evalArithmetic text)
    if purpose.isQuoted then return [.literal (marked value true)]
    else return [.region false (marked value false)]

/-- The pieces that parts of a word expand to, given whether they begin the word. -/
def expandParts (purpose : Purpose) (isStart : Bool) : List Fragment → Action (List Piece)
  | [] => return []
  | part :: parts => do
    let pieces ← expandPart purpose isStart parts.isEmpty part
    return pieces ++ (← expandParts purpose false parts)

end

/-- The octets that a word expands to where it is not split. -/
def expandText (word : Word) : Action Bytes := do
  return joinPieces (← expandParts output {} true word)

/-- The octets that the value of an assignment expands to. -/
def expandValue (word : Word) : Action Bytes := do
  return joinPieces (← expandParts output { afterColons := true } true word)

/-- The pattern that a word expands to. -/
def expandPattern (word : Word) : Action Pattern := do
  let pieces ← expandParts output {} true word
  return Pattern.ofField (pieces.flatMap Piece.octets)

/-- The octets that a text in the script expands to. -/
def expandDocument (word : Word) : Action Bytes := do
  return joinPieces (← expandParts output { isQuoted := true } false word)

/-- The texts that a word expands to. -/
def expandWord (word : Word) : Action (List Bytes) := do
  let pieces ← expandParts output { inFields := true } true word
  let state ← get
  return (splitFields state.separators pieces).flatMap state.matchFiles

/-- The texts that some words expand to. -/
def expandWords : List Word → Action (List Bytes)
  | [] => return []
  | word :: words => do
    let first ← expandWord output word
    return first ++ (← expandWords words)

end Shell

end HostProvision
