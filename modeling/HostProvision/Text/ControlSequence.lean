import HostProvision.Text.Utf8

/-! # Text without control sequences

A stream that does not control a terminal gets text without control sequences and without controls
other than white space. `ControlSequence.strip` leaves them out. A control sequence is followed byte by
byte through its states; white space in the middle of one is kept, and what is shown after it is
taken for text until the next control. -/

namespace HostProvision

namespace Text

namespace ControlSequence

/-- Where in a control sequence a text is. -/
inductive State where
  /-- In none. -/
  | ground
  /-- After an escape. -/
  | escape
  /-- After an escape and an intermediate octet. -/
  | escapeIntermediate
  /-- At the beginning of a sequence with parameters. -/
  | entry
  /-- Among its parameters. -/
  | parameter
  /-- After them. -/
  | intermediate
  /-- In a sequence that makes no sense. -/
  | ignored
  /-- At the beginning of a device string. -/
  | deviceEntry
  /-- Among the parameters of a device string. -/
  | deviceParameter
  /-- After them. -/
  | deviceIntermediate
  /-- In a device string, or another string that ends in the same way. -/
  | deviceString
  /-- In a command for the operating system. -/
  | systemCommand
  deriving DecidableEq, Repr

namespace State

/-- The state after an escape and another octet. -/
def afterEscape (octet : UInt8) : State :=
  if octet < 0x20 ∨ 0x7F ≤ octet then escape
  else if octet < 0x30 then escapeIntermediate
  else if octet = 0x5B then entry
  else if octet = 0x5D then systemCommand
  else if octet = 0x50 then deviceEntry
  else if octet = 0x58 ∨ octet = 0x5E ∨ octet = 0x5F then deviceString
  else ground

/-- The state after an octet inside a sequence with parameters. -/
def afterParameter (state : State) (octet : UInt8) : State :=
  if octet < 0x20 ∨ 0x7F ≤ octet then state
  else if 0x40 ≤ octet then ground
  else if octet < 0x30 then intermediate
  else if octet < 0x3C ∨ state = entry then parameter
  else ignored

/-- The state after an octet in front of a device string. -/
def afterDeviceParameter (state : State) (octet : UInt8) : State :=
  if octet < 0x20 ∨ 0x7F ≤ octet then state
  else if 0x40 ≤ octet then deviceString
  else if octet < 0x30 then deviceIntermediate
  else if octet < 0x3C ∨ state = deviceEntry then deviceParameter
  else deviceString

/-- The state after an octet. -/
def next (state : State) (octet : UInt8) : State :=
  if octet = 0x18 ∨ octet = 0x1A then ground
  else if octet = 0x1B then escape
  else match state with
    | ground => ground
    | escape => afterEscape octet
    | escapeIntermediate => if 0x30 ≤ octet ∧ octet < 0x7F then ground else escapeIntermediate
    | entry | parameter => afterParameter state octet
    | intermediate =>
      if 0x40 ≤ octet ∧ octet < 0x7F then ground
      else if 0x30 ≤ octet ∧ octet < 0x40 then ignored
      else intermediate
    | ignored => if 0x40 ≤ octet ∧ octet < 0x7F then ground else ignored
    | deviceEntry | deviceParameter => afterDeviceParameter state octet
    | deviceIntermediate =>
      if 0x30 ≤ octet ∧ octet < 0x7F then deviceString else deviceIntermediate
    | deviceString => if octet = 0x9C then ground else deviceString
    | systemCommand => if octet = 0x07 then ground else systemCommand

/-- Whether controls take effect in a state, so that white space is shown. -/
def heedsControls : State → Bool
  | deviceEntry | deviceParameter | deviceIntermediate | deviceString | systemCommand => false
  | _ => true

end State

/-- Whether an octet is white space that is shown. -/
def isSpace (octet : UInt8) : Bool :=
  octet = 0x09 || octet = 0x0A || octet = 0x0C || octet = 0x0D

/-- Whether an octet is a visible ASCII character or a space. -/
def isVisible (octet : UInt8) : Bool :=
  0x20 ≤ octet && octet < 0x7F

/-- How many octets follow the first octet of a character beyond ASCII. -/
def continuation (octet : UInt8) : Nat :=
  if octet < 0xC2 then 0 else if octet < 0xE0 then 1 else if octet < 0xF0 then 2
  else if octet < 0xF5 then 3 else 0

/-- How the next octet is taken. -/
inductive Mode where
  /-- As text. The state is that of the last sequence. -/
  | shown (state : State)
  /-- As part of a control sequence, if the state says so. -/
  | hidden (state : State)
  /-- As part of a character with some more octets to come. -/
  | within (count : Nat)
  deriving DecidableEq, Repr

/-- The mode after the first octet of a character. -/
def Mode.opening (octet : UInt8) : Mode :=
  within (continuation octet - 1)

/-- Leaves control sequences out, from a mode on. -/
def stripFrom : Mode → Bytes → Bytes
  | _, [] => []
  | .within count, octet :: rest =>
    octet :: stripFrom (if count = 0 then .shown .ground else .within (count - 1)) rest
  | .shown state, octet :: rest =>
    if continuation octet ≠ 0 then octet :: stripFrom (.opening octet) rest
    else if isVisible octet || isSpace octet then octet :: stripFrom (.shown state) rest
    else stripFrom (.hidden (state.next octet)) rest
  | .hidden state, octet :: rest =>
    if state = .ground ∧ continuation octet ≠ 0 then octet :: stripFrom (.opening octet) rest
    else if (state = .ground ∧ isVisible octet) ∨ (state.heedsControls ∧ isSpace octet) then
      octet :: stripFrom (.shown state) rest
    else stripFrom (.hidden (state.next octet)) rest

/-- A text without control sequences. -/
def strip (text : String) : String :=
  Utf8.lossy (stripFrom (.shown .ground) (Utf8.encode text))

example : strip "a\x1b[1mb\x1b[0m\x07c\x7f" = "abc" := by decide +kernel
example : strip "a\x1b[3\nmé\x1b]0;t\x07" = "a\nmé" := by decide +kernel

end ControlSequence

end Text

end HostProvision
