/-! # UTF-8 between texts and octets

The search path, file names and the output of tools are octet strings; most of what a user reads is
text. This file holds the passage between the two. `Utf8.encode` writes a text as octets.
`Utf8.scan` cuts any octet string into pieces, each either one scalar value or one **maximal
ill-formed subpart** (the longest prefix of a well-formed sequence that the input breaks off, or a
single octet that starts none). `Utf8.lossy` shows every such subpart as one U+FFFD, and
`Utf8.decode?` refuses an octet string that holds one.

The scan is a structural recursion on the octets that carries the sequence read so far, so an octet
below `0x80` always ends whatever sequence was open. -/

namespace HostProvision

/-- Octet strings: paths, environment values and what tools print. -/
abbrev Bytes := List UInt8

namespace Utf8

/-- The octets of a text. -/
def encode (text : String) : Bytes :=
  text.toList.flatMap String.utf8EncodeChar

/-- The empty text has no octets. -/
@[simp] theorem encode_empty : encode "" = [] :=
  rfl

/-- Encoding is a homomorphism: appended texts have appended octets. -/
@[simp] theorem encode_append (first second : String) :
    encode (first ++ second) = encode first ++ encode second := by
  simp [encode]

/-- One piece of a scanned octet string. -/
inductive Piece where
  /-- A well-formed sequence, as the scalar value it stands for. -/
  | scalar (value : Char)
  /-- A maximal ill-formed subpart, as the octets it covers. -/
  | broken (octets : Bytes)
  deriving DecidableEq, Repr

/-- A sequence whose end has not been read: its octets so far, their payload, how many octets are
still to come, and the range that the next one must lie in. -/
structure Pending where
  /-- The octets read so far. -/
  octets : Bytes
  /-- The payload bits of those octets. -/
  payload : Nat
  /-- How many octets follow the next one. -/
  after : Nat
  /-- The least octet that continues the sequence. -/
  low : UInt8
  /-- The greatest octet that continues the sequence. -/
  high : UInt8
  deriving DecidableEq, Repr

/-- What a lead octet announces, if it starts a sequence of several octets. The ranges rule out
overlong forms, surrogates and values above U+10FFFF. -/
def lead? (octet : UInt8) : Option Pending :=
  let open_ (base : UInt8) (after : Nat) (low high : UInt8) : Option Pending :=
    some ⟨[octet], (octet - base).toNat, after, low, high⟩
  if octet < 0xC2 then none
  else if octet < 0xE0 then open_ 0xC0 0 0x80 0xBF
  else if octet = 0xE0 then open_ 0xE0 1 0xA0 0xBF
  else if octet = 0xED then open_ 0xE0 1 0x80 0x9F
  else if octet < 0xF0 then open_ 0xE0 1 0x80 0xBF
  else if octet = 0xF0 then open_ 0xF0 2 0x90 0xBF
  else if octet < 0xF4 then open_ 0xF0 2 0x80 0xBF
  else if octet = 0xF4 then open_ 0xF0 2 0x80 0x8F
  else none

/-- Reads an octet with no sequence open: a piece of its own, or the start of a sequence. -/
def start (octet : UInt8) : Piece ⊕ Pending :=
  if octet < 0x80 then .inl (.scalar (Char.ofNat octet.toNat))
  else match lead? octet with
    | some pending => .inr pending
    | none => .inl (.broken [octet])

/-- Whether an octet continues an open sequence. -/
def Pending.accepts (pending : Pending) (octet : UInt8) : Bool :=
  pending.low ≤ octet && octet ≤ pending.high

/-- Adds a continuation octet to an open sequence, closing it when it was the last one. -/
def Pending.extend (pending : Pending) (octet : UInt8) : Piece ⊕ Pending :=
  let payload := pending.payload * 64 + (octet - 0x80).toNat
  match pending.after with
  | 0 => .inl (.scalar (Char.ofNat payload))
  | after + 1 => .inr ⟨pending.octets ++ [octet], payload, after, 0x80, 0xBF⟩

/-- The pieces of an octet string read with a sequence possibly open. -/
def scanFrom : Option Pending → Bytes → List Piece
  | none, [] => []
  | some pending, [] => [.broken pending.octets]
  | none, octet :: rest =>
    match start octet with
    | .inl piece => piece :: scanFrom none rest
    | .inr pending => scanFrom (some pending) rest
  | some pending, octet :: rest =>
    if pending.accepts octet then
      match pending.extend octet with
      | .inl piece => piece :: scanFrom none rest
      | .inr longer => scanFrom (some longer) rest
    else
      .broken pending.octets ::
        match start octet with
        | .inl piece => piece :: scanFrom none rest
        | .inr fresh => scanFrom (some fresh) rest

/-- The pieces of an octet string. -/
def scan (octets : Bytes) : List Piece :=
  scanFrom none octets

/-- No octets, no pieces. -/
@[simp] theorem scan_nil : scan [] = [] :=
  rfl

/-- The character that stands for one ill-formed subpart. -/
def replacement : Char := '\uFFFD'

/-- How a piece is shown. -/
def Piece.shown : Piece → Char
  | .scalar value => value
  | .broken _ => replacement

/-- The text of an octet string, each maximal ill-formed subpart shown as U+FFFD. -/
def lossy (octets : Bytes) : String :=
  String.ofList ((scan octets).map Piece.shown)

/-- The scalar value of a piece, if it is well formed. -/
def Piece.scalar? : Piece → Option Char
  | .scalar value => some value
  | .broken _ => none

/-- The text of a well-formed octet string. -/
def decode? (octets : Bytes) : Option String :=
  ((scan octets).mapM Piece.scalar?).map String.ofList

/-- Nothing shows as the empty text. -/
@[simp] theorem lossy_nil : lossy [] = "" :=
  rfl

/-- An octet below `0x80` closes an open sequence and stands for itself. -/
theorem scanFrom_ascii (pending : Option Pending) (octet : UInt8) (rest : Bytes)
    (ascii : octet < 0x80) (bounded : ∀ p ∈ pending, 0x80 ≤ p.low) :
    scanFrom pending (octet :: rest) =
      (pending.toList.map fun p => Piece.broken p.octets) ++
        .scalar (Char.ofNat octet.toNat) :: scanFrom none rest := by
  cases pending with
  | none => simp [scanFrom, start, ascii]
  | some p =>
    have low : 0x80 ≤ p.low := bounded p rfl
    have refused : p.accepts octet = false := by
      simp only [Pending.accepts, Bool.and_eq_false_iff, decide_eq_false_iff_not]
      left
      intro le
      exact absurd (UInt8.lt_of_lt_of_le ascii (UInt8.le_trans low le)) (UInt8.lt_irrefl octet)
    simp [scanFrom, start, ascii, refused]

example : lossy [0x61, 0xFF, 0x62] = "a\uFFFDb" := by decide +kernel
example : lossy [0xE2, 0x82] = "\uFFFD" := by decide +kernel
example : lossy [0xED, 0xA0, 0x80] = "\uFFFD\uFFFD\uFFFD" := by decide +kernel
example : lossy [0xF0, 0x9F, 0x98, 0x80] = "😀" := by decide +kernel
example : decode? [0xC3, 0x28] = none := by decide +kernel

end Utf8

end HostProvision
