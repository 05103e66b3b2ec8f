import HostProvision.Text.Regex

/-! # Reading regular expressions

`Regex.parse?` reads the usual notation: `|`, `*`, `+`, `?`, groups, bracketed sets with ranges,
nested sets and the operations `&&`, `--` and `~~`, escapes, anchors and flags. Counted repetition
and names in braces are not part of the notation, since the texts that are read never hold a closing
brace. -/

namespace HostProvision

namespace Text

namespace CharSet

/-- The characters from one to another. -/
def range (first last : Char) : CharSet :=
  fun c => first ≤ c && c ≤ last

/-- The characters of a list. -/
def ofList (chars : List Char) : CharSet :=
  fun c => chars.contains c

/-- The characters that are not in a set. -/
def complement (set : CharSet) : CharSet :=
  fun c => !set c

/-- A set together with the other case of its letters. -/
def ignoringCase (set : CharSet) : CharSet :=
  fun c => set c || set c.toLower || set c.toUpper

/-- The digits. -/
def digits : CharSet := Char.isDigit

/-- The blank characters. -/
def blanks : CharSet :=
  ofList ['\t', '\n', '\x0b', '\x0c', '\r', ' ']

/-- The visible characters that are neither letters nor digits. -/
def marks : CharSet :=
  fun c => '!' ≤ c && c ≤ '~' && !c.isAlphanum

/-- The sets that can be named inside brackets. -/
def named : List (String × CharSet) :=
  [("alnum", Char.isAlphanum), ("alpha", Char.isAlpha), ("ascii", fun c => c.toNat < 0x80),
   ("blank", ofList ['\t', ' ']), ("cntrl", fun c => c.toNat < 0x20 || c.toNat = 0x7F),
   ("digit", Char.isDigit), ("graph", range '!' '~'), ("lower", Char.isLower),
   ("print", range ' ' '~'), ("punct", marks), ("space", blanks), ("upper", Char.isUpper),
   ("word", Regex.isWordChar), ("xdigit", fun c => c.isDigit || range 'a' 'f' c || range 'A' 'F' c)]

/-- The sets of characters of one kind that are named by a letter. -/
def category? : Char → Option CharSet
  | 'L' => some Char.isAlpha
  | 'N' => some Char.isDigit
  | 'P' => some fun c => marks c && !(ofList ['$', '+', '<', '=', '>', '^', '\x60', '|', '~']) c
  | 'S' => some (ofList ['$', '+', '<', '=', '>', '^', '\x60', '|', '~'])
  | 'Z' => some (ofList [' '])
  | 'C' => some fun c => c.toNat < 0x20 || c.toNat = 0x7F
  | 'M' => some fun _ => false
  | _ => none

end CharSet

namespace Regex

/-- How a part of a regular expression is read. -/
structure Flags where
  /-- Letters stand for both cases. -/
  ignoresCase : Bool := false
  /-- Blank characters and comments are skipped. -/
  isSpaced : Bool := false
  /-- Sets are sets of characters, and not of octets. -/
  isUnicode : Bool := true
  deriving DecidableEq, Repr

/-- What an escape stands for. -/
inductive Escape where
  /-- A character. -/
  | char (c : Char)
  /-- A set. -/
  | set (set : CharSet) (isNegated : Bool)
  /-- A place. -/
  | place (anchor : Anchor)

/-- Why a regular expression cannot be used. -/
inductive Fault where
  /-- It is not well-formed. -/
  | malformed
  /-- It asks for words of characters beyond ASCII. -/
  | unicodeWords
  deriving DecidableEq, Repr

/-- The number that some hexadecimal digits stand for. -/
def hexNumber? (digits : List Char) : Option Nat :=
  digits.foldlM (fun n c =>
    if c.isDigit then some (n * 16 + (c.toNat - 0x30))
    else if CharSet.range 'a' 'f' c.toLower then some (n * 16 + (c.toLower.toNat - 0x57))
    else none) 0

/-- The character whose code point is written with a given number of hexadecimal digits. -/
def hexChar? (count : Nat) (chars : List Char) : Option (Escape × List Char) := do
  let digits := chars.take count
  if digits.length < count then none
  let n ← hexNumber? digits
  if n.isValidChar then some (.char (Char.ofNat n), chars.drop count) else none

/-- Reads an escape after its backslash. -/
def readEscape (flags : Flags) : List Char → Option (Escape × List Char)
  | [] => none
  | c :: rest =>
    match c with
    | 'd' => some (.set CharSet.digits false, rest)
    | 'D' => some (.set CharSet.digits true, rest)
    | 's' => some (.set CharSet.blanks false, rest)
    | 'S' => some (.set CharSet.blanks true, rest)
    | 'w' => some (.set isWordChar false, rest)
    | 'W' => some (.set isWordChar true, rest)
    | 'p' | 'P' =>
      match rest with
      | letter :: rest =>
        if flags.isUnicode then
          (CharSet.category? letter).map fun set => (.set set (c = 'P'), rest)
        else none
      | [] => none
    | 'x' => hexChar? 2 rest
    | 'u' => hexChar? 4 rest
    | 'U' => hexChar? 8 rest
    | 'a' => some (.char '\x07', rest)
    | 'f' => some (.char '\x0c', rest)
    | 't' => some (.char '\t', rest)
    | 'n' => some (.char '\n', rest)
    | 'r' => some (.char '\r', rest)
    | 'v' => some (.char '\x0b', rest)
    | 'A' => some (.place .start, rest)
    | 'z' => some (.place .stop, rest)
    | 'b' => some (.place .wordEdge, rest)
    | 'B' => some (.place .noWordEdge, rest)
    | '<' => some (.place .wordStart, rest)
    | '>' => some (.place .wordStop, rest)
    | c => if c.toNat < 0x80 ∧ !c.isAlphanum then some (.char c, rest) else none

/-- An operation on two sets. -/
inductive SetOperation where
  /-- What is in either. -/
  | union
  /-- What is in both. -/
  | common
  /-- What is in the first only. -/
  | difference
  /-- What is in exactly one. -/
  | apart
  deriving DecidableEq, Repr

/-- The result of an operation on two sets. -/
def SetOperation.apply (first second : CharSet) : SetOperation → CharSet
  | union => fun c => first c || second c
  | common => fun c => first c && second c
  | difference => fun c => first c && !second c
  | apart => fun c => first c != second c

/-- A set as the flags have it. -/
def Flags.adjust (flags : Flags) (set : CharSet) : CharSet :=
  if flags.ignoresCase then CharSet.ignoringCase set else set

/-- Reads a named set after its opening `[:`. -/
def readNamedSet (chars : List Char) : Option (CharSet × List Char) := do
  let (isNegated, chars) := match chars with
    | '^' :: rest => (true, rest)
    | _ => (false, chars)
  let name := chars.takeWhile Char.isAlpha
  let set ← CharSet.named.lookup (String.ofList name)
  match chars.drop name.length with
  | ':' :: ']' :: rest => some (if isNegated then CharSet.complement set else set, rest)
  | _ => none

/-- Reads the next member of a set: a character, or a set of its own. -/
def readMember (flags : Flags) : List Char → Option ((Char ⊕ CharSet) × List Char)
  | [] => none
  | '\\' :: rest => do
    match ← readEscape flags rest with
    | (.char c, rest) => some (.inl c, rest)
    | (.set set isNegated, rest) =>
      some (.inr (if isNegated then CharSet.complement set else set), rest)
    | (.place _, _) => none
  | c :: rest => some (.inl c, rest)

/-- What has been read of a set. -/
structure SetReading where
  /-- The left side of an operation that waits for its right side. -/
  waiting : Option (CharSet × SetOperation) := none
  /-- The members since then. -/
  members : CharSet := fun _ => false

/-- The set that has been read. -/
def SetReading.result (reading : SetReading) : CharSet :=
  match reading.waiting with
  | some (first, operation) => operation.apply first reading.members
  | none => reading.members

/-- Adds members to a set. -/
def SetReading.add (reading : SetReading) (set : CharSet) : SetReading :=
  { reading with members := SetOperation.union.apply reading.members set }

/-- Begins the right side of an operation. -/
def SetReading.operate (reading : SetReading) (operation : SetOperation) : SetReading :=
  { waiting := some (reading.result, operation) }

mutual

/-- Reads a bracketed set after its opening bracket. -/
def readSet (flags : Flags) : Nat → List Char → Option (CharSet × List Char)
  | 0, _ => none
  | fuel + 1, chars => do
    let (isNegated, chars) := match chars with
      | '^' :: rest => (true, rest)
      | _ => (false, chars)
    if isNegated ∧ !flags.isUnicode then none
    let dashes := chars.takeWhile (· = '-')
    let reading : SetReading := {}
    let reading := if dashes.isEmpty then reading else reading.add (· = '-')
    let chars := chars.drop dashes.length
    let (reading, chars) := match dashes, chars with
      | [], ']' :: rest => (reading.add (· = ']'), rest)
      | _, _ => (reading, chars)
    let (set, rest) ← readMembers flags fuel reading chars
    some (if isNegated then CharSet.complement set else set, rest)

/-- Reads the members of a set up to its closing bracket. -/
def readMembers (flags : Flags) : Nat → SetReading → List Char → Option (CharSet × List Char)
  | 0, _, _ => none
  | fuel + 1, reading, chars =>
    match chars with
    | [] => none
    | ']' :: rest => some (reading.result, rest)
    | '&' :: '&' :: rest => readMembers flags fuel (reading.operate .common) rest
    | '-' :: '-' :: rest => readMembers flags fuel (reading.operate .difference) rest
    | '~' :: '~' :: rest => readMembers flags fuel (reading.operate .apart) rest
    | '[' :: rest =>
      let named := match rest with
        | ':' :: rest => readNamedSet rest
        | _ => none
      match named with
      | some (set, rest) => readMembers flags fuel (reading.add (flags.adjust set)) rest
      | none => do
        let (set, rest) ← readSet flags fuel rest
        readMembers flags fuel (reading.add set) rest
    | chars => do
      if flags.isSpaced ∧ CharSet.blanks (chars.headD 'a') then
        return ← readMembers flags fuel reading (chars.drop 1)
      let (first, rest) ← readMember flags chars
      match rest with
      | '-' :: ']' :: _ | '-' :: '-' :: _ =>
        readMembers flags fuel (reading.add (flags.adjust (first.elim (fun c => (· = c)) id))) rest
      | '-' :: rest => do
        let (last, rest) ← readMember flags rest
        match first, last with
        | .inl first, .inl last =>
          if first ≤ last then
            readMembers flags fuel (reading.add (flags.adjust (CharSet.range first last))) rest
          else none
        | _, _ => none
      | rest =>
        readMembers flags fuel (reading.add (flags.adjust (first.elim (fun c => (· = c)) id))) rest

end

/-- Reads flags up to the character that ends them, which is returned as well. -/
def readFlags : Bool → List Char → Flags → List Char → Option (Flags × Char × List Char)
  | _, _, _, [] => none
  | isOff, seen, flags, c :: rest =>
    if c = ':' ∨ c = ')' then
      if seen.isEmpty ∧ c = ')' ∨ (isOff ∧ seen.head? = some '-') then none
      else some (flags, c, rest)
    else if c = '-' then
      if isOff then none else readFlags true ('-' :: seen) flags rest
    else if seen.contains c then none
    else match c with
      | 'i' => readFlags isOff (c :: seen) { flags with ignoresCase := !isOff } rest
      | 'x' => readFlags isOff (c :: seen) { flags with isSpaced := !isOff } rest
      | 'u' => readFlags isOff (c :: seen) { flags with isUnicode := !isOff } rest
      | 'm' | 's' | 'U' | 'R' => readFlags isOff (c :: seen) flags rest
      | _ => none

/-- Reads the name of a group up to its closing bracket. -/
def readGroupName (chars : List Char) : Option (String × List Char) :=
  let name := chars.takeWhile (· ≠ '>')
  match name, chars.drop name.length with
  | first :: others, '>' :: rest =>
    if (first.isAlpha ∨ first = '_') ∧
        others.all fun c => isWordChar c || c = '.' || c = '[' || c = ']' then
      some (String.ofList name, rest)
    else none
  | _, _ => none

/-- What has been read of a group. -/
structure GroupReading where
  /-- How the rest of it is read. -/
  flags : Flags
  /-- The choices before the last `|`. -/
  choices : Option Regex := none
  /-- What stands after it, the last part first. -/
  parts : List Regex := []

namespace GroupReading

/-- What stands after the last `|`. -/
def sequence (reading : GroupReading) : Regex :=
  reading.parts.foldl (fun rest part => seq part rest) empty

/-- The regular expression that has been read. -/
def result (reading : GroupReading) : Regex :=
  match reading.choices with
  | some choices => either choices reading.sequence
  | none => reading.sequence

/-- Adds a part. -/
def add (reading : GroupReading) (regex : Regex) : GroupReading :=
  { reading with parts := regex :: reading.parts }

/-- Ends a choice. -/
def choose (reading : GroupReading) : GroupReading :=
  { reading with choices := some reading.result, parts := [] }

/-- Repeats the last part, if there is one. -/
def repeatLast (reading : GroupReading) (operator : Char) : Option GroupReading :=
  match reading.parts with
  | [] => none
  | last :: parts =>
    let repeated := match operator with
      | '*' => many last
      | '+' => seq last (many last)
      | _ => either last empty
    some { reading with parts := repeated :: parts }

end GroupReading

/-- A part that stands for an escape. -/
def ofEscape (flags : Flags) : Escape → Option Regex
  | .char c => some (one (flags.adjust (· = c)))
  | .set set isNegated =>
    if isNegated then if flags.isUnicode then some (one (CharSet.complement set)) else none
    else some (one set)
  | .place place =>
    some (anchor place)

/-- What follows a repetition. A question mark after it asks for few matches first, which makes no
difference to a whole text. -/
def afterRepetition : List Char → List Char
  | '?' :: rest => rest
  | rest => rest

/-- Reads a group up to its closing bracket, or to the end. The names of groups and the anchors that
ask for words are collected. -/
def readGroup : Nat → Bool → List String → Bool → GroupReading → List Char →
    Option (Regex × List String × Bool × List Char)
  | 0, _, _, _, _, _ => none
  | fuel + 1, isNested, names, hasWords, reading, chars =>
    match chars with
    | [] => if isNested then none else some (reading.result, names, hasWords, [])
    | ')' :: rest => if isNested then some (reading.result, names, hasWords, rest) else none
    | '|' :: rest => readGroup fuel isNested names hasWords reading.choose rest
    | '[' :: rest => do
      let (set, rest) ← readSet reading.flags (rest.length + 1) rest
      readGroup fuel isNested names hasWords (reading.add (one set)) rest
    | '(' :: '?' :: rest => do
      let name? : Option (List Char) := match rest with
        | 'P' :: '<' :: rest => some rest
        | '<' :: rest => some rest
        | _ => none
      match name? with
      | some rest =>
        let (name, rest) ← readGroupName rest
        if names.contains name then none
        let (inner, names, hasWords, rest) ←
          readGroup fuel true (name :: names) hasWords { flags := reading.flags } rest
        readGroup fuel isNested names hasWords (reading.add inner) rest
      | none =>
        let (flags, ending, rest) ← readFlags false [] reading.flags rest
        if ending = ')' then
          match rest with
          | '*' :: _ | '+' :: _ | '?' :: _ => none
          | rest => readGroup fuel isNested names hasWords { reading with flags } rest
        else
          let (inner, names, hasWords, rest) ← readGroup fuel true names hasWords { flags } rest
          readGroup fuel isNested names hasWords (reading.add inner) rest
    | '(' :: rest => do
      let (inner, names, hasWords, rest) ←
        readGroup fuel true names hasWords { flags := reading.flags } rest
      readGroup fuel isNested names hasWords (reading.add inner) rest
    | '*' :: rest => do
      readGroup fuel isNested names hasWords (← reading.repeatLast '*') (afterRepetition rest)
    | '+' :: rest => do
      readGroup fuel isNested names hasWords (← reading.repeatLast '+') (afterRepetition rest)
    | '?' :: rest => do
      readGroup fuel isNested names hasWords (← reading.repeatLast '?') (afterRepetition rest)
    | '\x7b' :: _ => none
    | '.' :: rest =>
      if reading.flags.isUnicode then
        readGroup fuel isNested names hasWords (reading.add (one (· ≠ '\n'))) rest
      else none
    | '^' :: rest => readGroup fuel isNested names hasWords (reading.add (anchor .start)) rest
    | '$' :: rest => readGroup fuel isNested names hasWords (reading.add (anchor .stop)) rest
    | '\\' :: rest => do
      let (escape, rest) ← readEscape reading.flags rest
      let part ← ofEscape reading.flags escape
      let asksWords := part.hasAnchor fun place => place ≠ .start && place ≠ .stop
      readGroup fuel isNested names (hasWords || (asksWords && reading.flags.isUnicode))
        (reading.add part) rest
    | c :: rest =>
      if reading.flags.isSpaced ∧ CharSet.blanks c then
        readGroup fuel isNested names hasWords reading rest
      else if reading.flags.isSpaced ∧ c = '#' then
        readGroup fuel isNested names hasWords reading (rest.dropWhile (· ≠ '\n'))
      else
        readGroup fuel isNested names hasWords
          (reading.add (one (reading.flags.adjust (· = c)))) rest

/-- The regular expression that a text denotes. -/
def parse (text : List Char) : Except Fault Regex :=
  match readGroup (text.length + 1) false [] false { flags := {} } text with
  | some (_, _, true, _) => .error .unicodeWords
  | some (regex, _, false, _) => .ok regex
  | none => .error .malformed

/-- Whether a text denotes a regular expression that describes another text. -/
def describes (pattern text : String) : Bool :=
  match parse pattern.toList with
  | .ok regex => regex.isMatch text.toList
  | .error _ => false

example : describes "gcc-[0-9]+" "gcc-10" = true := by decide +kernel
example : describes "(?i)gcc|clang" "Clang" = true := by decide +kernel
example : describes "[^g].*" "gcc" = false := by decide +kernel
example : describes "a+?b??" "" = false := by decide +kernel
example : (parse "a**".toList).isOk = true := by decide +kernel
example : (parse "(a".toList).isOk = false := by decide +kernel

end Regex

end Text

end HostProvision
