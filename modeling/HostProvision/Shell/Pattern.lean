import HostProvision.Text.Utf8

/-! # Patterns

A pattern is a sequence of elements, each of which matches one octet, except that `*` matches any
number of them. A field of a script becomes a pattern by its octets: what is quoted stands for
itself, and an unquoted backslash quotes the octet after it. -/

namespace HostProvision

namespace Shell

/-- An octet of an expanded word, with whether it was quoted. -/
abbrev Marked : Type :=
  UInt8 × Bool

/-- A class of octets that has a name. -/
inductive OctetClass where
  /-- Letters and digits. -/
  | alnum
  /-- Letters. -/
  | alpha
  /-- Spaces and tabs. -/
  | blank
  /-- Control characters. -/
  | cntrl
  /-- Digits. -/
  | digit
  /-- Visible characters. -/
  | graph
  /-- Small letters. -/
  | lower
  /-- Visible characters and the space. -/
  | print
  /-- Visible characters other than letters and digits. -/
  | punct
  /-- White space. -/
  | space
  /-- Capital letters. -/
  | upper
  /-- Hexadecimal digits. -/
  | xdigit
  deriving DecidableEq, Repr

namespace OctetClass

/-- The classes with their names. -/
def names : List (String × OctetClass) :=
  [("alnum", alnum), ("alpha", alpha), ("blank", blank), ("cntrl", cntrl), ("digit", digit),
   ("graph", graph), ("lower", lower), ("print", print), ("punct", punct), ("space", space),
   ("upper", upper), ("xdigit", xdigit)]

/-- Whether an octet belongs to a class. -/
def contains (octetClass : OctetClass) (octet : UInt8) : Bool :=
  let c := Char.ofNat octet.toNat
  let isVisible := 0x21 ≤ octet && octet ≤ 0x7E
  match octetClass with
  | alnum => c.isAlphanum
  | alpha => c.isAlpha
  | blank => c = ' ' || c = '\t'
  | cntrl => octet < 0x20 || octet = 0x7F
  | digit => c.isDigit
  | graph => isVisible
  | lower => c.isLower
  | print => isVisible || c = ' '
  | punct => isVisible && !c.isAlphanum
  | space => c = ' ' || (0x09 ≤ octet && octet ≤ 0x0D)
  | upper => c.isUpper
  | xdigit => c.isDigit || ('a' ≤ c && c ≤ 'f') || ('A' ≤ c && c ≤ 'F')

end OctetClass

/-- What may stand between the brackets of a pattern. -/
inductive Member where
  /-- The octets between two, which count as signed numbers. -/
  | range (low high : UInt8)
  /-- The octets of a class. -/
  | ofClass (octetClass : OctetClass)
  deriving DecidableEq, Repr

/-- Whether an octet is meant by a member. -/
def Member.contains : Member → UInt8 → Bool
  | range low high, octet => low.toInt8 ≤ octet.toInt8 && octet.toInt8 ≤ high.toInt8
  | ofClass octetClass, octet => octetClass.contains octet

/-- An element of a pattern. -/
inductive PatternElement where
  /-- Matches one octet. -/
  | octet (octet : UInt8)
  /-- Matches any one octet. -/
  | anyOne
  /-- Matches any number of octets. -/
  | anyMany
  /-- Matches one octet that some member contains, or that none contains. -/
  | oneOf (isNegated : Bool) (members : List Member)
  deriving DecidableEq, Repr

/-- A pattern. -/
abbrev Pattern : Type :=
  List PatternElement

namespace Pattern

/-- An unquoted octet. -/
def bare (c : Char) : Marked :=
  (UInt8.ofNat c.toNat, false)

/-- Takes one octet for itself: an unquoted backslash quotes the octet after it. -/
def takeOctet : List Marked → Option (UInt8 × List Marked)
  | [] => none
  | (octet, isQuoted) :: rest =>
    match rest with
    | (quoted, _) :: after =>
      if octet = 0x5C && !isQuoted then some (quoted, after) else some (octet, rest)
    | [] => some (octet, [])

/-- The class whose name stands here between a colon and another colon with a bracket. -/
def takeClass (field : List Marked) : Option (OctetClass × List Marked) :=
  OctetClass.names.findSome? fun (name, octetClass) =>
    let text := ((":" ++ name ++ ":]").toList).map bare
    if text.isPrefixOf field then some (octetClass, field.drop text.length) else none

/-- Reads the members between brackets. A closing bracket in first place stands for itself. -/
def readMembers : Nat → Bool → List Marked → Option (List Member × List Marked)
  | 0, _, _ => none
  | fuel + 1, isFirst, field => do
    let (first, afterFirst) ← takeOctet field
    if !isFirst && field.head? = some (bare ']') then return ([], field.drop 1)
    let asClass := if field.head? = some (bare '[') then takeClass (field.drop 1) else none
    match asClass with
    | some (octetClass, rest) =>
      let (members, rest) ← readMembers fuel false rest
      return (.ofClass octetClass :: members, rest)
    | none =>
      let (member, rest) ←
        if afterFirst.head? = some (bare '-') && (afterFirst.drop 1).head? ≠ some (bare ']') then
          (takeOctet (afterFirst.drop 1)).map fun (high, rest) => (Member.range first high, rest)
        else some (.range first first, afterFirst)
      let (members, rest) ← readMembers fuel false rest
      return (member :: members, rest)

/-- The pattern that a field stands for. -/
def ofMarked : Nat → List Marked → Pattern
  | 0, _ => []
  | _, [] => []
  | fuel + 1, (octet, isQuoted) :: rest =>
    if isQuoted then .octet octet :: ofMarked fuel rest
    else match Char.ofNat octet.toNat with
      | '*' => .anyMany :: ofMarked fuel rest
      | '?' => .anyOne :: ofMarked fuel rest
      | '[' =>
        let isNegated := rest.head? = some (bare '!')
        match readMembers (rest.length + 1) true (if isNegated then rest.drop 1 else rest) with
        | some (members, after) => .oneOf isNegated members :: ofMarked fuel after
        | none => .octet octet :: ofMarked fuel rest
      | _ =>
        match takeOctet ((octet, isQuoted) :: rest) with
        | some (octet, after) => .octet octet :: ofMarked fuel after
        | none => []

/-- The pattern that a field stands for. -/
def ofField (field : List Marked) : Pattern :=
  ofMarked (field.length + 1) field

/-- Whether a pattern stands for more than one text. -/
def isSpecial (pattern : Pattern) : Bool :=
  pattern.any fun element =>
    match element with
    | .octet _ => false
    | _ => true

/-- Whether an element other than `*` matches an octet. -/
def elementMatches : PatternElement → UInt8 → Bool
  | .octet expected, octet => expected = octet
  | .anyOne, _ => true
  | .anyMany, _ => true
  | .oneOf isNegated members, octet => (members.any fun member => member.contains octet) != isNegated

/-- What a text may go on with, from the whole text to nothing. -/
def suffixes : Bytes → List Bytes
  | [] => [[]]
  | octet :: rest => (octet :: rest) :: suffixes rest

/-- What may be left of a text after one more element, given what may be left before it; in both cases
from the longest to the shortest. -/
def advance (element : PatternElement) (rests : List Bytes) : List Bytes :=
  match element, rests with
  | .anyMany, [] => []
  | .anyMany, longest :: _ => suffixes longest
  | element, rests => rests.filterMap fun rest =>
    match rest with
    | [] => none
    | octet :: rest => if elementMatches element octet then some rest else none

/-- What may be left after a pattern of what may be left before it. -/
def leftOver : Pattern → List Bytes → List Bytes
  | [], rests => rests
  | element :: pattern, rests => leftOver pattern (advance element rests)

/-- Whether a pattern matches a whole text. -/
def isMatch (pattern : Pattern) (text : Bytes) : Bool :=
  (leftOver pattern [text]).any List.isEmpty

/-- The empty pattern matches nothing but the empty text. -/
@[simp] theorem isMatch_nil (text : Bytes) : isMatch [] text = text.isEmpty := by
  simp [isMatch, leftOver]

/-- A text may go on with nothing. -/
theorem nil_mem_suffixes (text : Bytes) : [] ∈ suffixes text := by
  induction text with
  | nil => simp [suffixes]
  | cons octet rest ih => simp [suffixes, ih]

/-- A star alone matches everything. -/
@[simp] theorem isMatch_anyMany (text : Bytes) : isMatch [.anyMany] text = true := by
  simp only [isMatch, leftOver, advance, List.any_eq_true]
  exact ⟨[], nil_mem_suffixes text, rfl⟩

/-- Where nothing may be left, no pattern leaves anything. -/
@[simp] theorem leftOver_nil (pattern : Pattern) : leftOver pattern [] = [] := by
  induction pattern with
  | nil => rfl
  | cons element pattern ih => cases element <;> simpa [leftOver, advance] using ih

/-- The texts that the end of a text may be cut to so that a pattern matches it, longest first, each
with what comes before. -/
def matchingEnds (pattern : Pattern) (text : Bytes) : List (Bytes × Bytes) :=
  ((List.range (text.length + 1)).map text.splitAt).filter fun (_, rest) => pattern.isMatch rest

/-- A text without its shortest or longest beginning that a pattern matches. -/
def trimStart (pattern : Pattern) (isLongest : Bool) (text : Bytes) : Bytes :=
  let rests := leftOver pattern [text]
  (if isLongest then rests.getLast? else rests.head?).getD text

/-- A text without its shortest or longest end that a pattern matches. -/
def trimEnd (pattern : Pattern) (isLongest : Bool) (text : Bytes) : Bytes :=
  let found := matchingEnds pattern text
  match (if isLongest then found.head? else found.getLast?) with
  | some (before, _) => before
  | none => text

example : (ofField ("a*[!b-d]".toList.map bare)).isMatch (Utf8.encode "axyz") = true := by
  decide +kernel
example : (ofField ("[[:digit:]]*".toList.map bare)).isMatch (Utf8.encode "5x") = true := by
  decide +kernel
example : (ofField ("\\*".toList.map bare)).isMatch (Utf8.encode "*") = true := by
  decide +kernel

end Pattern

end Shell

end HostProvision
