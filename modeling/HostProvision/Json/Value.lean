import HostProvision.Json.Token

/-! # JSON values

A value keeps what its text says: the spelling of numbers and the order and repetition of object
members. `Value.tokens` writes a value as tokens; `Value.ofTokens?` reads one back with a stack of
open containers. `Value.render` and `Value.parse?` are the same on texts. -/

namespace HostProvision

namespace Json

/-- A JSON value. -/
inductive Value where
  /-- The null value. -/
  | null
  /-- A truth value. -/
  | bool (value : Bool)
  /-- A number as it was spelled. -/
  | number (lexeme : List Char)
  /-- A string, unless it holds an unpaired surrogate. -/
  | text (value : Option String)
  /-- A list of values. -/
  | array (items : List Value)
  /-- A list of named values, in order and with repetitions. -/
  | object (members : List (Option String × Value))
  deriving Repr

namespace Value

/-! ### Writing -/

mutual

/-- The tokens of a value. -/
def tokens : Value → List Token
  | .null => [.null]
  | .bool value => [.bool value]
  | .number lexeme => [.number lexeme]
  | .text value => [.text value]
  | .array items => .openArray :: itemTokens items ++ [.closeArray]
  | .object members => .openObject :: memberTokens members ++ [.closeObject]

/-- The tokens of the items of an array, with commas between them. -/
def itemTokens : List Value → List Token
  | [] => []
  | [last] => last.tokens
  | item :: next :: rest => item.tokens ++ .comma :: itemTokens (next :: rest)

/-- The tokens of the members of an object, with commas between them. -/
def memberTokens : List (Option String × Value) → List Token
  | [] => []
  | [(key, last)] => .text key :: .colon :: last.tokens
  | (key, value) :: next :: rest =>
    .text key :: .colon :: value.tokens ++ .comma :: memberTokens (next :: rest)

end

/-- The written form of a value, with no insignificant whitespace. -/
def render (value : Value) : String :=
  String.ofList (Token.render value.tokens)

/-! ### Reading -/

/-- A container that has been opened and not closed, with the values read before the current one,
last first. -/
inductive Frame where
  /-- Inside an array. -/
  | array (before : List Value)
  /-- Inside an object, at the value of a member. -/
  | object (before : List (Option String × Value)) (key : Option String)
  deriving Repr

/-- What a reader of tokens expects next; the innermost open container comes first. -/
inductive Reader where
  /-- A value. -/
  | anyValue (stack : List Frame)
  /-- The first item of an array, or its end. -/
  | arrayStart (stack : List Frame)
  /-- The first key of an object, or its end. -/
  | objectStart (stack : List Frame)
  /-- A further key. -/
  | nextKey (before : List (Option String × Value)) (stack : List Frame)
  /-- The colon after a key. -/
  | colon (before : List (Option String × Value)) (key : Option String) (stack : List Frame)
  /-- A separator or the end of a container, after a complete value. -/
  | after (value : Value) (stack : List Frame)
  deriving Repr

namespace Reader

/-- Reads the first token of a value. -/
def start? (stack : List Frame) : Token → Option Reader
  | .null => some (.after .null stack)
  | .bool value => some (.after (.bool value) stack)
  | .number lexeme => some (.after (.number lexeme) stack)
  | .text value => some (.after (.text value) stack)
  | .openArray => some (.arrayStart stack)
  | .openObject => some (.objectStart stack)
  | .closeArray | .closeObject | .comma | .colon => none

/-- Reads one token. -/
def step? : Reader → Token → Option Reader
  | .anyValue stack, token => start? stack token
  | .arrayStart stack, .closeArray => some (.after (.array []) stack)
  | .arrayStart stack, token => start? (.array [] :: stack) token
  | .objectStart stack, .closeObject => some (.after (.object []) stack)
  | .objectStart stack, .text key => some (.colon [] key stack)
  | .nextKey before stack, .text key => some (.colon before key stack)
  | .colon before key stack, .colon => some (.anyValue (.object before key :: stack))
  | .after value (.array before :: stack), .comma =>
    some (.anyValue (.array (value :: before) :: stack))
  | .after value (.array before :: stack), .closeArray =>
    some (.after (.array (value :: before).reverse) stack)
  | .after value (.object before key :: stack), .comma =>
    some (.nextKey ((key, value) :: before) stack)
  | .after value (.object before key :: stack), .closeObject =>
    some (.after (.object ((key, value) :: before).reverse) stack)
  | _, _ => none

/-- The value that has been read, at the end of the text. -/
def finish? : Reader → Option Value
  | .after value [] => some value
  | _ => none

end Reader

/-- Reads a sequence of tokens. -/
def Reader.run? : Reader → List Token → Option Reader
  | reader, [] => some reader
  | reader, token :: rest => (reader.step? token).bind fun next => next.run? rest

/-- Reading one part after another is reading both. -/
theorem Reader.run?_append (reader : Reader) (first second : List Token) :
    reader.run? (first ++ second) = (reader.run? first).bind fun next => next.run? second := by
  induction first generalizing reader with
  | nil => rfl
  | cons token rest ih =>
    simp only [List.cons_append, Reader.run?]
    cases reader.step? token with
    | none => rfl
    | some next => simpa using ih next

/-- The value that a sequence of tokens stands for. -/
def ofTokens? (tokens : List Token) : Option Value :=
  ((Reader.anyValue []).run? tokens).bind Reader.finish?

/-- The value that a text stands for. -/
def parse? (text : String) : Option Value :=
  (Token.scan? text.toList).bind ofTokens?

end Value

end Json

end HostProvision
