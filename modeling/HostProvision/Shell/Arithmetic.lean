import HostProvision.Shell.Reader

/-! # Integer expressions

The value of an expression over 64-bit integers is found while the expression is read. A side that
does not count, such as what follows `0 &&`, is read but neither looks at variables nor assigns them
nor divides. `Arithmetic.value` reads a whole text; `Arithmetic.parseNumber` reads the number that a
text stands for. -/

namespace HostProvision

namespace Shell

namespace Arithmetic

/-! ### Numbers -/

/-- The value of a digit in a base up to 16. -/
def digit? (base : Nat) (c : Char) : Option Nat :=
  let value :=
    if c.isDigit then c.toNat - '0'.toNat
    else if 'a' ≤ c && c ≤ 'f' then c.toNat - 'a'.toNat + 10
    else if 'A' ≤ c && c ≤ 'F' then c.toNat - 'A'.toNat + 10
    else base
  if value < base then some value else none

/-- The number that digits of a base stand for. -/
def digitsValue (base : Nat) (digits : List Char) : Nat :=
  digits.foldl (fun n c => n * base + (digit? base c).getD 0) 0

/-- Reads digits: hexadecimal ones after `0x`, octal ones after `0`, and decimal ones otherwise. The
result is the number, the characters after it, and whether there were digits at all. -/
def readDigits (chars : List Char) : Nat × List Char × Bool :=
  let inBase (base : Nat) (chars : List Char) : Nat × List Char × Bool :=
    let digits := chars.takeWhile fun c => (digit? base c).isSome
    (digitsValue base digits, chars.drop digits.length, !digits.isEmpty)
  match chars with
  | '0' :: x :: c :: rest =>
    if (x = 'x' || x = 'X') && (digit? 16 c).isSome then inBase 16 (c :: rest)
    else inBase 8 chars
  | '0' :: _ => inBase 8 chars
  | chars => inBase 10 chars

/-- Whether a character is white space. -/
def isSpace (c : Char) : Bool :=
  c = ' ' || ('\t' ≤ c && c ≤ '\r')

/-- A number that a text begins with. -/
structure Numeral where
  /-- The number, or the nearest one that 64 bits hold. -/
  value : Int64
  /-- The characters after it. -/
  rest : List Char
  /-- Whether the text begins with a number at all. -/
  isNumber : Bool
  /-- Whether the number is too great for 64 bits. -/
  isTooGreat : Bool

/-- Reads a number after white space and a sign. -/
def readNumeral (chars : List Char) : Numeral :=
  let (isNegative, digits) := match chars.dropWhile isSpace with
    | '-' :: rest => (true, rest)
    | '+' :: rest => (false, rest)
    | rest => (false, rest)
  let (value, rest, isNumber) := readDigits digits
  let signed : Int := if isNegative then -value else value
  if !isNumber then ⟨0, chars, false, false⟩
  else if signed < Int64.minValue.toInt then ⟨Int64.minValue, rest, true, true⟩
  else if Int64.maxValue.toInt < signed then ⟨Int64.maxValue, rest, true, true⟩
  else ⟨Int64.ofInt signed, rest, true, false⟩

/-- The number that a whole text stands for; a blank one stands for zero. -/
def parseNumber (text : Bytes) : Option Int64 :=
  let numeral := readNumeral (charsOf text)
  if numeral.isTooGreat || !numeral.rest.all isSpace then none else some numeral.value

example : parseNumber (Utf8.encode " 0x1F ") = some 31 := by decide +kernel
example : parseNumber (Utf8.encode "-010") = some (-8) := by decide +kernel
example : parseNumber (Utf8.encode "1a") = none := by decide +kernel

/-- The number that a whole text stands for in decimal digits. -/
def decimal? (text : Bytes) : Option Int :=
  let (isNegative, digits) := match (charsOf text).dropWhile isSpace with
    | '-' :: rest => (true, rest)
    | '+' :: rest => (false, rest)
    | rest => (false, rest)
  let read := digits.takeWhile Char.isDigit
  let value : Int := digitsValue 10 read
  let signed := if isNegative then -value else value
  if read.isEmpty || !(digits.drop read.length).all isSpace then none
  else if Int64.minValue.toInt ≤ signed && signed ≤ Int64.maxValue.toInt then some signed
  else none

/-- The greatest count that an argument may give. -/
def maxCount : Nat := 2147483647

/-- The count that a whole text stands for. -/
def count? (text : Bytes) : Option Nat :=
  match decimal? text with
  | some (.ofNat count) => if count ≤ maxCount then some count else none
  | _ => none

example : count? (Utf8.encode " +012 ") = some 12 := by decide +kernel
example : count? (Utf8.encode "2147483648") = none := by decide +kernel

/-- The text of an integer. -/
def text (value : Int64) : Bytes :=
  Utf8.encode (toString value.toInt)

/-! ### Symbols -/

/-- The smallest units of an expression. -/
inductive Symbol where
  /-- The end of the expression. -/
  | finish
  /-- A character that has no meaning. -/
  | unknown
  /-- A number. -/
  | number (value : Int64)
  /-- A variable. -/
  | name (name : String)
  /-- An operator or a bracket. -/
  | operator (text : String)
  deriving DecidableEq, Repr

/-- The operators; a longer one stands before the shorter one it begins with. -/
def operators : List String :=
  ["<<=", ">>=", "||", "&&", "==", "!=", "<=", ">=", "<<", ">>", "+=", "-=", "*=", "/=", "%=",
   "&=", "^=", "|=", "+", "-", "*", "/", "%", "<", ">", "=", "!", "~", "&", "^", "|", "?", ":",
   "(", ")"]

/-- The operators that assign, with the operator that they apply first. -/
def assignments : List (String × Option String) :=
  [("=", none), ("+=", some "+"), ("-=", some "-"), ("*=", some "*"), ("/=", some "/"),
   ("%=", some "%"), ("<<=", some "<<"), (">>=", some ">>"), ("&=", some "&"), ("^=", some "^"),
   ("|=", some "|")]

/-- How tightly an operator between two values binds: the less, the tighter. -/
def precedence? (operator : String) : Option Nat :=
  match operator with
  | "*" | "/" | "%" => some 0
  | "+" | "-" => some 1
  | "<<" | ">>" => some 2
  | "<" | "<=" | ">" | ">=" => some 3
  | "==" | "!=" => some 4
  | "&" => some 5
  | "^" => some 6
  | "|" => some 7
  | _ => none

/-- The loosest precedence. -/
def loosest : Nat := 8

/-- Reads one symbol. -/
def readSymbol (chars : List Char) : Symbol × List Char :=
  match chars.dropWhile fun c => c = ' ' || c = '\t' || c = '\n' with
  | [] => (.finish, [])
  | c :: rest =>
    if c.isDigit then
      let numeral := readNumeral (c :: rest)
      (.number numeral.value, numeral.rest)
    else if startsName c then
      let name := c :: rest.takeWhile continuesName
      (.name (String.ofList name), (c :: rest).drop name.length)
    else match operators.find? fun operator => operator.toList.isPrefixOf (c :: rest) with
      | some operator => (.operator operator, (c :: rest).drop operator.length)
      | none => (.unknown, c :: rest)

/-! ### Values -/

/-- Why an expression has no value. -/
inductive Problem where
  /-- The expression is malformed, or divides by zero. -/
  | complaint (words : String)
  /-- A variable whose value is no number. -/
  | illegalNumber (text : Bytes)
  /-- A variable that cannot be assigned. -/
  | readOnly (name : String)
  /-- A quotient that 64 bits do not hold. -/
  | overflow
  deriving DecidableEq, Repr

/-- The variables as an expression sees them. -/
structure Store where
  /-- The values of variables. -/
  value : String → Bytes
  /-- Whether a variable cannot be assigned. -/
  isReadOnly : String → Bool

/-- An expression that is being read. -/
structure Calculation where
  /-- The variables. -/
  store : Store
  /-- The next symbol. -/
  symbol : Symbol
  /-- The characters after it. -/
  rest : List Char
  /-- The variables that have been assigned, last first. -/
  assigned : List (String × Int64) := []

/-- A step in the reading of an expression. -/
abbrev Calculating (α : Type) : Type :=
  ExceptT Problem (StateM Calculation) α

/-- One for what holds and zero for what does not. -/
def truth (holds : Bool) : Int64 :=
  if holds then 1 else 0

/-- What does not hold is zero. -/
@[simp] theorem truth_eq_zero_iff (holds : Bool) : truth holds = 0 ↔ holds = false := by
  cases holds <;> decide

/-- The result of an operator between two values. -/
def combine (operator : String) (a b : Int64) : Except Problem Int64 :=
  let divided (result : Int64) : Except Problem Int64 :=
    if b = 0 then .error (.complaint "division by zero")
    else if a = Int64.minValue && b = -1 then .error .overflow
    else .ok result
  match operator with
  | "+" => .ok (a + b)
  | "-" => .ok (a - b)
  | "*" => .ok (a * b)
  | "/" => divided (a / b)
  | "%" => divided (a % b)
  | "<<" => .ok (a <<< b)
  | ">>" => .ok (a >>> b)
  | "<" => .ok (truth (a < b))
  | ">" => .ok (truth (b < a))
  | "<=" => .ok (truth (a ≤ b))
  | ">=" => .ok (truth (b ≤ a))
  | "==" => .ok (truth (a = b))
  | "!=" => .ok (truth (a ≠ b))
  | "&" => .ok (a &&& b)
  | "^" => .ok (a ^^^ b)
  | "|" => .ok (a ||| b)
  | _ => .ok 0

/-- Goes on to the next symbol. -/
def advance : Calculating Unit :=
  modify fun calculation =>
    let (symbol, rest) := readSymbol calculation.rest
    { calculation with symbol, rest }

/-- The value of a variable. -/
def lookup (name : String) : Calculating Int64 := do
  let calculation ← get
  match calculation.assigned.lookup name with
  | some value => return value
  | none =>
    let text := calculation.store.value name
    match parseNumber text with
    | some value => return value
    | none => throw (.illegalNumber text)

/-- Assigns a variable. -/
def assign (name : String) (value : Int64) : Calculating Unit := do
  if (← get).store.isReadOnly name then throw (.readOnly name)
  modify fun calculation =>
    { calculation with assigned := (name, value) :: calculation.assigned }

/-- The operator between two values that comes next, with its precedence. -/
def nextBinary? (calculation : Calculation) : Option (String × Nat) :=
  match calculation.symbol with
  | .operator operator => (precedence? operator).map fun precedence => (operator, precedence)
  | _ => none

mutual

/-- The value of an assignment or a choice. -/
def assignment : Nat → Bool → Calculating Int64
  | 0, _ => throw (.complaint "expecting primary")
  | fuel + 1, counts => do
    let calculation ← get
    let assigning? := match calculation.symbol, readSymbol calculation.rest with
      | .name name, (.operator operator, _) =>
        (assignments.lookup operator).map fun applied => (name, applied)
      | _, _ => none
    match assigning? with
    | none => choice fuel counts
    | some (name, applied) =>
      advance
      advance
      let value ← assignment fuel counts
      if !counts then return value
      let value ← match applied with
        | none => pure value
        | some operator => do
          let before ← lookup name
          liftExcept (combine operator before value)
      assign name value
      return value

/-- The value of a choice between two values by a third. -/
def choice : Nat → Bool → Calculating Int64
  | 0, _ => throw (.complaint "expecting primary")
  | fuel + 1, counts => do
    let test ← anyOf fuel counts
    if (← get).symbol ≠ .operator "?" then return test
    advance
    let first ← assignment fuel (counts && test ≠ 0)
    if (← get).symbol ≠ .operator ":" then throw (.complaint "expecting ':'")
    advance
    let second ← choice fuel (counts && test = 0)
    return if test ≠ 0 then first else second

/-- The value of terms joined by `||`. -/
def anyOf : Nat → Bool → Calculating Int64
  | 0, _ => throw (.complaint "expecting primary")
  | fuel + 1, counts => do
    let first ← allOf fuel counts
    if (← get).symbol ≠ .operator "||" then return first
    advance
    let second ← anyOf fuel (counts && first = 0)
    return truth (first ≠ 0 || second ≠ 0)

/-- The value of terms joined by `&&`. -/
def allOf : Nat → Bool → Calculating Int64
  | 0, _ => throw (.complaint "expecting primary")
  | fuel + 1, counts => do
    let first ← binary fuel counts
    if (← get).symbol ≠ .operator "&&" then return first
    advance
    let second ← allOf fuel (counts && first ≠ 0)
    return truth (first ≠ 0 && second ≠ 0)

/-- The value of operands joined by operators that have precedences. -/
def binary : Nat → Bool → Calculating Int64
  | 0, _ => throw (.complaint "expecting primary")
  | fuel + 1, counts => do
    let first ← primary fuel counts
    match nextBinary? (← get) with
    | some (operator, precedence) => binaryRest fuel counts first operator precedence loosest
    | none => return first

/-- The value of operands joined by operators that bind more tightly than a limit, given the first
operand and the operator after it. -/
def binaryRest : Nat → Bool → Int64 → String → Nat → Nat → Calculating Int64
  | 0, _, _, _, _, _ => throw (.complaint "expecting primary")
  | fuel + 1, counts, first, operator, precedence, limit => do
    advance
    let second ← primary fuel counts
    let second ← match nextBinary? (← get) with
      | some (tighter, tighterPrecedence) =>
        if tighterPrecedence < precedence then
          binaryRest fuel counts second tighter tighterPrecedence precedence
        else pure second
      | none => pure second
    let value ← if counts then liftExcept (combine operator first second) else pure second
    match nextBinary? (← get) with
    | some (next, nextPrecedence) =>
      if nextPrecedence < limit then binaryRest fuel counts value next nextPrecedence limit
      else return value
    | none => return value

/-- The value of an operand. -/
def primary : Nat → Bool → Calculating Int64
  | 0, _ => throw (.complaint "expecting primary")
  | fuel + 1, counts => do
    let symbol := (← get).symbol
    match symbol with
    | .number value =>
      advance
      return value
    | .name name =>
      advance
      if counts then lookup name else return 0
    | .operator "(" =>
      advance
      let value ← assignment fuel counts
      if (← get).symbol ≠ .operator ")" then throw (.complaint "expecting ')'")
      advance
      return value
    | .operator "+" =>
      advance
      primary fuel counts
    | .operator "-" =>
      advance
      return -(← primary fuel counts)
    | .operator "!" =>
      advance
      return truth ((← primary fuel counts) = 0)
    | .operator "~" =>
      advance
      return ~~~(← primary fuel counts)
    | _ => throw (.complaint "expecting primary")

end

/-- The value of the expression that a text stands for, with the variables that were assigned, last
first. -/
def value (store : Store) (text : List Char) : Except Problem Int64 × List (String × Int64) :=
  let whole : Calculating Int64 := do
    let result ← assignment (16 * (text.length + 2)) true
    if (← get).symbol ≠ .finish then throw (.complaint "expecting EOF")
    return result
  let (symbol, rest) := readSymbol text
  let (result, calculation) := whole.run.run { store, symbol, rest }
  (result, calculation.assigned)

/-- A store without variables. -/
def Store.empty : Store :=
  ⟨fun _ => [], fun _ => false⟩

example : (value .empty "1 + 2 * (3 - 4) << 1".toList).1.toOption = some (-2) := by
  decide +kernel
example : (value .empty "x = 3, 4".toList).1.toOption = none := by decide +kernel

end Arithmetic

end Shell

end HostProvision
