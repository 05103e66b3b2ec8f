import HostProvision.Shell.Builtin.Output
import HostProvision.Shell.Field

/-! # Reading lines

`read` takes a line of the input and splits it into as many fields as there are variables. The last
variable gets the rest of the line, without the blanks at its end. -/

namespace HostProvision

namespace Shell

namespace Builtin

/-- A line of input, in which a backslash quotes the octet after it unless that is switched off. -/
structure LineRead where
  /-- The line, last octet first. -/
  line : List Marked := []
  /-- The number of octets taken. -/
  count : Nat := 0
  /-- What is left of the input. -/
  rest : Bytes
  /-- Whether the line has an end. -/
  isEnded : Bool := false

/-- Adds an octet to a line; a NUL does not count. -/
def LineRead.add (read : LineRead) (octet : UInt8) (isQuoted : Bool) : LineRead :=
  { read with
    line := if octet = 0 then read.line else (octet, isQuoted) :: read.line
    count := read.count + 1 }

/-- Reads a line, given what has been read of it. -/
def readLine (isRaw : Bool) (read : LineRead) : Bytes → LineRead
  | [] => { read with rest := [] }
  | 0x0A :: rest => { read with rest, count := read.count + 1, isEnded := true }
  | 0x5C :: octet :: rest =>
    if isRaw then readLine isRaw (read.add 0x5C false) (octet :: rest)
    else if octet = 0x0A then readLine isRaw { read with count := read.count + 2 } rest
    else
      let read := read.add octet true
      readLine isRaw { read with count := read.count + 1 } rest
  | octet :: rest =>
    if octet = 0x5C && !isRaw then { read with rest, count := read.count + 1 }
    else readLine isRaw (read.add octet false) rest

/-- A line that is being split into a number of fields. -/
structure LineSplitting where
  /-- The complete fields, last first. -/
  complete : List Bytes := []
  /-- The octets of the field under way, last first. -/
  current : Bytes := []
  /-- How many fields may still end. -/
  count : Nat
  /-- Whether a blank has just ended a field. -/
  isAfterBlank : Bool := false
  /-- The length of the last field without what may have to be taken off. -/
  kept : Option Nat := none

namespace LineSplitting

/-- Adds an octet of a line. -/
def add (separators : Bytes) (splitting : LineSplitting) (octet : Marked) : LineSplitting :=
  let extended := { splitting with current := octet.1 :: splitting.current }
  let separates := !octet.2 && separators.contains octet.1
  let isBlank := separates && State.blanks.contains octet.1
  if octet.2 then { extended with isAfterBlank := false }
  else if splitting.count = 0 then
    if isBlank then { extended with kept := splitting.kept.or (some splitting.current.length) }
    else
      { extended with
        isAfterBlank := false
        kept := if separates && splitting.isAfterBlank then splitting.kept else none }
  else if splitting.isAfterBlank && separates then
    { splitting with current := [], isAfterBlank := isBlank }
  else if !separates then { extended with isAfterBlank := false }
  else if splitting.current.isEmpty && isBlank then { splitting with isAfterBlank := false }
  else if splitting.count = 1 then
    { extended with
      count := 0, isAfterBlank := isBlank, kept := some splitting.current.length }
  else
    { splitting with
      complete := splitting.current.reverse :: splitting.complete, current := []
      count := splitting.count - 1, isAfterBlank := isBlank }

/-- The fields when nothing more is added. -/
def fields (splitting : LineSplitting) : List Bytes :=
  let last := splitting.current.reverse
  let last := match splitting.kept with
    | some length => last.take length
    | none => last
  (if last = [] then splitting.complete else last :: splitting.complete).reverse

end LineSplitting

/-- The fields that a line is split into, a number of them at most. -/
def lineFields (separators : Bytes) (count : Nat) (line : List Marked) : List Bytes :=
  (line.foldl (LineSplitting.add separators) { count }).fields

/-- Assigns values to variables, of which those without a value become empty. -/
def assignFields : List Bytes → List Bytes → Action Unit
  | [], _ => return
  | name :: names, values => do
    Action.assign (← Action.nameIn name) (values.head?.getD [])
    assignFields names (values.drop 1)

/-- Reads a line of input into variables. -/
def read : Builtin := fun args => do
  let (options, names) ← takeOptions [('p', true), ('r', false)] args
  if names = [] then Action.fail (ascii "arg count")
  let state ← get
  let isRaw := options.any fun option => option.1 = 'r'
  match state.descriptors.lookup 0 with
  | none =>
    assignFields names []
    return 1
  | some stream =>
    let pending := (state.shared.pending? stream).getD []
    let read := readLine isRaw { rest := [] } pending
    modify fun state =>
      { state with shared := state.shared.skip stream read.count read.rest }
    assignFields names (lineFields state.separators names.length read.line.reverse)
    return answerStatus read.isEnded

end Builtin

end Shell

end HostProvision
