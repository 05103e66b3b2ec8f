/-! # Tokens of JSON texts

`Token.scan?` cuts a JSON text into tokens by a finite automaton, one character at a time, and
`Token.chars` writes a token in its shortest form. Insignificant whitespace is the four characters
that the format allows. A number keeps its spelling; a string is its text, or nothing when an escape
names a surrogate that is not paired, so that such a string can be skipped but not read. -/

namespace HostProvision

namespace Json

/-- The tokens of a JSON text. -/
inductive Token where
  /-- `[` -/
  | openArray
  /-- `]` -/
  | closeArray
  /-- An opening brace. -/
  | openObject
  /-- A closing brace. -/
  | closeObject
  /-- `,` -/
  | comma
  /-- `:` -/
  | colon
  /-- `null` -/
  | null
  /-- `true` or `false` -/
  | bool (value : Bool)
  /-- A number as it was spelled. -/
  | number (lexeme : List Char)
  /-- A string, unless it holds an unpaired surrogate. -/
  | text (value : Option String)
  deriving DecidableEq, Repr

/-! ### Numbers -/

/-- How far the spelling of a number has been read. -/
inductive NumberPhase where
  /-- After the minus sign. -/
  | minus
  /-- After a leading zero; a digit here would begin another number. -/
  | zero
  /-- Inside the whole part. -/
  | whole
  /-- After the point. -/
  | point
  /-- Inside the fraction. -/
  | fraction
  /-- After the exponent mark. -/
  | mark
  /-- After the sign of the exponent. -/
  | sign
  /-- Inside the exponent. -/
  | exponent
  deriving DecidableEq, Repr

namespace NumberPhase

/-- The phase in which a number begins, by its first character. -/
def start? (c : Char) : Option NumberPhase :=
  if c = '-' then some .minus
  else if c = '0' then some .zero
  else if c.isDigit then some .whole
  else none

/-- The phase after one more character, if that character continues the number. -/
def step? : NumberPhase → Char → Option NumberPhase
  | .minus, c => if c = '0' then some .zero else if c.isDigit then some .whole else none
  | .zero, c => afterWhole c
  | .whole, c => if c.isDigit then some .whole else afterWhole c
  | .point, c => if c.isDigit then some .fraction else none
  | .fraction, c => if c.isDigit then some .fraction else afterFraction c
  | .mark, c => if c = '+' || c = '-' then some .sign else digitOfExponent c
  | .sign, c => digitOfExponent c
  | .exponent, c => digitOfExponent c
where
  afterWhole (c : Char) : Option NumberPhase :=
    if c = '.' then some .point else afterFraction c
  afterFraction (c : Char) : Option NumberPhase :=
    if c = 'e' || c = 'E' then some .mark else none
  digitOfExponent (c : Char) : Option NumberPhase :=
    if c.isDigit then some .exponent else none

/-- Whether a number may end here. -/
def complete : NumberPhase → Bool
  | .zero | .whole | .fraction | .exponent => true
  | .minus | .point | .mark | .sign => false

end NumberPhase

/-! ### Strings -/

/-- The part of a string that has been read. -/
structure Draft where
  /-- The characters read, last first, unless an unpaired surrogate has been met. -/
  chars : Option (List Char)
  /-- A leading surrogate that waits for its partner. -/
  leading : Option Nat
  deriving DecidableEq, Repr

namespace Draft

/-- The draft of a string of which nothing has been read. -/
def empty : Draft :=
  ⟨some [], none⟩

/-- Adds a character that was written as itself or by a short escape. -/
def push (draft : Draft) (c : Char) : Draft :=
  match draft.leading with
  | none => ⟨draft.chars.map (c :: ·), none⟩
  | some _ => ⟨none, none⟩

/-- Adds a UTF-16 unit that was written by number. -/
def pushUnit (draft : Draft) (unit : Nat) : Draft :=
  let isLeading := 0xD800 ≤ unit && unit < 0xDC00
  let isTrailing := 0xDC00 ≤ unit && unit < 0xE000
  match draft.leading with
  | some leading =>
    if isTrailing then
      let value := 0x10000 + (leading - 0xD800) * 0x400 + (unit - 0xDC00)
      ⟨draft.chars.map (Char.ofNat value :: ·), none⟩
    else ⟨none, none⟩
  | none =>
    if isLeading then ⟨draft.chars, some unit⟩
    else if isTrailing then ⟨none, none⟩
    else ⟨draft.chars.map (Char.ofNat unit :: ·), none⟩

/-- The string at its closing quote. -/
def finish (draft : Draft) : Option String :=
  match draft.leading with
  | none => draft.chars.map fun chars => String.ofList chars.reverse
  | some _ => none

end Draft

/-- The character named by a short escape. -/
def shortEscape? : Char → Option Char
  | '"' => some '"'
  | '\\' => some '\\'
  | '/' => some '/'
  | 'b' => some '\x08'
  | 'f' => some '\x0c'
  | 'n' => some '\n'
  | 'r' => some '\r'
  | 't' => some '\t'
  | _ => none

/-- The value of a hexadecimal digit of either case. -/
def hexDigit? (c : Char) : Option Nat :=
  if c.isDigit then some (c.toNat - '0'.toNat)
  else if 'a' ≤ c && c ≤ 'f' then some (c.toNat - 'a'.toNat + 10)
  else if 'A' ≤ c && c ≤ 'F' then some (c.toNat - 'A'.toNat + 10)
  else none

/-! ### The automaton -/

/-- Where the reading of a text stands. -/
inductive Scan where
  /-- Between two tokens. -/
  | between
  /-- Inside a literal name: the letters still due, and the token it will be. -/
  | word (due : List Char) (token : Token)
  /-- Inside a number: its phase and its characters, last first. -/
  | number (phase : NumberPhase) (lexeme : List Char)
  /-- Inside a string. -/
  | text (draft : Draft)
  /-- After a backslash. -/
  | escape (draft : Draft)
  /-- Inside an escape by number: how many digits are due, and the value of those read. -/
  | unit (draft : Draft) (due : Nat) (value : Nat)
  deriving DecidableEq, Repr

namespace Scan

/-- Whether a character may stand between tokens. -/
def isSpace (c : Char) : Bool :=
  c = ' ' || c = '\n' || c = '\t' || c = '\r'

/-- Reads a character with no token open. -/
def start? (c : Char) : Option (List Token × Scan) :=
  if isSpace c then some ([], .between)
  else match c with
    | '[' => some ([.openArray], .between)
    | ']' => some ([.closeArray], .between)
    | '\x7b' => some ([.openObject], .between)
    | '\x7d' => some ([.closeObject], .between)
    | ',' => some ([.comma], .between)
    | ':' => some ([.colon], .between)
    | 'n' => some ([], .word ['u', 'l', 'l'] .null)
    | 't' => some ([], .word ['r', 'u', 'e'] (.bool true))
    | 'f' => some ([], .word ['a', 'l', 's', 'e'] (.bool false))
    | '"' => some ([], .text .empty)
    | c => (NumberPhase.start? c).map fun phase => ([], .number phase [c])

/-- Reads one character: the tokens that it completes, and where the reading stands then. -/
def step? : Scan → Char → Option (List Token × Scan)
  | .between, c => start? c
  | .word (letter :: due) token, c =>
    if c = letter then
      match due with
      | [] => some ([token], .between)
      | _ :: _ => some ([], .word due token)
    else none
  | .word [] _, _ => none
  | .number phase lexeme, c =>
    match phase.step? c with
    | some next => some ([], .number next (c :: lexeme))
    | none =>
      if phase.complete then
        (start? c).map fun (tokens, next) => (.number lexeme.reverse :: tokens, next)
      else none
  | .text draft, c =>
    if c = '"' then some ([.text draft.finish], .between)
    else if c = '\\' then some ([], .escape draft)
    else if c.toNat < 0x20 then none
    else some ([], .text (draft.push c))
  | .escape draft, c =>
    if c = 'u' then some ([], .unit draft 4 0)
    else (shortEscape? c).map fun value => ([], .text (draft.push value))
  | .unit draft due value, c =>
    (hexDigit? c).map fun digit =>
      let value := value * 16 + digit
      ([], if due ≤ 1 then .text (draft.pushUnit value) else .unit draft (due - 1) value)

/-- The tokens that the end of the text completes. -/
def finish? : Scan → Option (List Token)
  | .between => some []
  | .number phase lexeme => if phase.complete then some [.number lexeme.reverse] else none
  | _ => none

end Scan

namespace Token

/-- The tokens of a text whose reading stands at a given point. -/
def scanFrom? : Scan → List Char → Option (List Token)
  | state, [] => state.finish?
  | state, c :: rest =>
    match state.step? c with
    | none => none
    | some (tokens, next) => (scanFrom? next rest).map (tokens ++ ·)

/-- The tokens of a text. -/
def scan? (chars : List Char) : Option (List Token) :=
  scanFrom? .between chars

/-! ### Writing -/

/-- Two lower-case hexadecimal digits. -/
def hexPair (n : Nat) : List Char :=
  [Nat.digitChar (n / 16 % 16), Nat.digitChar (n % 16)]

/-- A character inside a written string: only what the format demands is escaped. -/
def escaped (c : Char) : List Char :=
  match c with
  | '"' => ['\\', '"']
  | '\\' => ['\\', '\\']
  | '\x08' => ['\\', 'b']
  | '\x0c' => ['\\', 'f']
  | '\n' => ['\\', 'n']
  | '\r' => ['\\', 'r']
  | '\t' => ['\\', 't']
  | c => if c.toNat < 0x20 then ['\\', 'u', '0', '0'] ++ hexPair c.toNat else [c]

/-- The written form of a token. A string that could not be read is written as one unpaired
surrogate. -/
def chars : Token → List Char
  | .openArray => ['[']
  | .closeArray => [']']
  | .openObject => ['\x7b']
  | .closeObject => ['\x7d']
  | .comma => [',']
  | .colon => [':']
  | .null => ['n', 'u', 'l', 'l']
  | .bool true => ['t', 'r', 'u', 'e']
  | .bool false => ['f', 'a', 'l', 's', 'e']
  | .number lexeme => lexeme
  | .text (some value) => '"' :: value.toList.flatMap escaped ++ ['"']
  | .text none => ['"', '\\', 'u', 'd', '8', '0', '0', '"']

/-- The written form of a sequence of tokens, with nothing between them. -/
def render (tokens : List Token) : List Char :=
  tokens.flatMap chars

@[simp] theorem scan?_nil : scan? [] = some [] :=
  rfl

@[simp] theorem render_nil : render [] = [] :=
  rfl

@[simp] theorem render_cons (token : Token) (rest : List Token) :
    render (token :: rest) = token.chars ++ render rest := by
  simp [render]

@[simp] theorem render_append (first second : List Token) :
    render (first ++ second) = render first ++ render second := by
  simp [render]

example : scan? "[1.5e3,true]".toList =
    some [.openArray, .number "1.5e3".toList, .comma, .bool true, .closeArray] := by
  decide +kernel
example : scan? "-".toList = none := by decide +kernel
example : scan? "\"\\ud83d\\ude00\"".toList = some [.text (some "😀")] := by decide +kernel
example : scan? "\"\\ud83d\"".toList = some [.text none] := by decide +kernel

end Token

end Json

end HostProvision
