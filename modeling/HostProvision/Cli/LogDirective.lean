import HostProvision.Event
import HostProvision.Text.Alphanumeric
import HostProvision.Text.Blank
import HostProvision.Text.Regex.Parser

/-! # Log directives

A directive sets the finest level of log messages that is shown. It can be about all messages or
about those whose source begins with some text, and about messages inside spans of a certain name or
with a certain field. It is written `source[span{field=value}]=level`, where every part may be
missing.

What is read are the parts between certain characters. Their positions are counted from the first
character that is not blank, but the parts are cut out of the whole text. -/

namespace HostProvision

namespace Cli

/-- What the value of a field is compared with. -/
inductive FieldTest where
  /-- A truth value. -/
  | truth (value : Bool)
  /-- A number. No field is one. -/
  | number
  /-- A regular expression for the text of the value. -/
  | pattern (regex : String)
  deriving DecidableEq, Repr

namespace FieldTest

/-- Whether a text is written like a decimal number without a sign. -/
def isUnsignedDecimal (text : List Char) : Bool :=
  let whole := text.takeWhile Char.isDigit
  let (point, rest) := match text.drop whole.length with
    | '.' :: rest => (rest.takeWhile Char.isDigit, rest.dropWhile Char.isDigit)
    | rest => ([], rest)
  (!whole.isEmpty || !point.isEmpty) &&
    match rest with
    | [] => true
    | e :: exponent =>
      let digits := match exponent with
        | '+' :: digits | '-' :: digits => digits
        | digits => digits
      (e = 'e' || e = 'E') && !digits.isEmpty && digits.all Char.isDigit

/-- Whether a text is written like a number. -/
def isNumber (text : String) : Bool :=
  let unsigned := match text.toList with
    | '+' :: rest | '-' :: rest => rest
    | chars => chars
  isUnsignedDecimal unsigned ||
    ["inf", "infinity", "nan"].contains (String.ofList (unsigned.map Char.toLower))

/-- The test that a text stands for. -/
def parse (text : String) : Except Text.Regex.Fault FieldTest :=
  if text = "true" then .ok (.truth true)
  else if text = "false" then .ok (.truth false)
  else if isNumber text then .ok .number
  else (Text.Regex.parse text.toList).map fun _ => .pattern text

/-- Whether a value passes a test. -/
def accepts : FieldTest → FieldValue → Bool
  | truth expected, .truth value => expected = value
  | pattern regex, .text value => Text.Regex.describes regex value
  | _, _ => false

end FieldTest

/-- What a directive asks of the fields of a span. -/
structure FieldCondition where
  /-- The name of the field that has to be there. -/
  name : String
  /-- The test that its value has to pass, if there is one. -/
  test? : Option FieldTest := none
  deriving DecidableEq, Repr

/-- A directive. -/
structure LogDirective where
  /-- How the sources begin that it is about. -/
  source : String := ""
  /-- The name of the spans that it is about. -/
  span? : Option String := none
  /-- What it asks of the fields of a span. -/
  condition? : Option FieldCondition := none
  /-- How much detail is shown: nothing at 0, errors only at 1, up to the finest details at 5. -/
  detail : Nat := Level.trace.detail
  deriving DecidableEq, Repr

namespace LogDirective

/-- Why a text is no directive. -/
inductive Fault where
  /-- The parts do not stand in the right places. -/
  | malformed
  /-- The level is none. -/
  | level
  /-- The regular expression for a field cannot be used. -/
  | field (fault : Text.Regex.Fault)
  deriving DecidableEq, Repr

/-- The words in which a fault is reported. -/
def Fault.message : Fault → String
  | malformed => "invalid filter directive"
  | level =>
    "error parsing level filter: expected one of \"off\", \"error\", \"warn\", \"info\", \"debug\", " ++
      "\"trace\", or a number 0-5"
  | field .malformed => "invalid field filter: error building NFA"
  | field .unicodeWords =>
    "invalid field filter: unsupported regex feature for DFAs: cannot build DFAs for regexes with " ++
      "Unicode word boundaries; switch to ASCII word boundaries, or heuristically enable Unicode " ++
      "word boundaries or use a different regex engine"

/-- The names of the levels of detail, from nothing on. -/
def levelNames : List String :=
  ["off", "error", "warn", "info", "debug", "trace"]

/-- The level of detail that a text gives by number, which may have a plus sign and zeros in front. -/
def numberedDetail? (text : List Char) : Option Nat :=
  let digits := match text with
    | '+' :: digits => digits
    | digits => digits
  if digits.isEmpty ∨ !digits.all Char.isDigit then none
  else match digits.dropWhile (· = '0') with
    | [] => some 0
    | [digit] => if digit ≤ '5' then some (digit.toNat - '0'.toNat) else none
    | _ => none

/-- The level of detail that a text gives by number or by name, in either case. -/
def detail? (text : String) : Option Nat :=
  match numberedDetail? text.toList with
  | some detail => some detail
  | none =>
    let lower := String.ofList (text.toList.map Char.toLower)
    (List.range levelNames.length).find? fun level => levelNames[level]? = some lower

/-- How far the reading of a directive has come, with the position at which the part begins that is
being read. -/
inductive Progress where
  /-- Nothing has been read. -/
  | atStart
  /-- A level, or how sources begin. -/
  | inLevelOrSource (first : Nat)
  /-- The name of a span. -/
  | inSpan (first : Nat)
  /-- A field. -/
  | inField (first : Nat)
  /-- The field is complete. -/
  | afterField
  /-- The span is complete. -/
  | afterSpan
  /-- A level. -/
  | inLevel (first : Nat)
  deriving DecidableEq, Repr

/-- The part of a text between two positions. -/
def part (text : Bytes) (first last : Nat) : String :=
  Utf8.lossy ((text.take last).drop first)

/-- The condition that a field stands for. -/
def parseField (text : String) : Except Fault FieldCondition :=
  match text.toList.splitOn '=' with
  | [] | [[]] => .error .malformed
  | [name] => .ok ⟨String.ofList name, none⟩
  | name :: value :: _ =>
    match FieldTest.parse (String.ofList value) with
    | .ok test => .ok ⟨String.ofList name, some test⟩
    | .error fault => .error (.field fault)

/-- Whether a directive may begin with a character. -/
def mayBegin (c : Char) : Bool :=
  c = '-' || c = ':' || c = '_' || Text.isAlphanumeric c

/-- Reads one character at a position of a text. -/
def advance (text : Bytes) (directive : LogDirective) (progress : Progress) (position : Nat)
    (c : Char) : Except Fault (LogDirective × Progress) :=
  match progress with
  | .atStart =>
    if c = '[' then .ok (directive, .inSpan (position + 1))
    else if mayBegin c then .ok (directive, .inLevelOrSource position)
    else .error .malformed
  | .inLevelOrSource first =>
    if c = '=' then .ok ({ directive with source := part text first position }, .inLevel (position + 1))
    else if c = '[' then
      .ok ({ directive with source := part text first position }, .inSpan (position + 1))
    else .ok (directive, progress)
  | .inSpan first =>
    let name := part text first position
    if c = ']' then .ok ({ directive with span? := some name }, .afterSpan)
    else if c = '\x7b' then
      .ok ({ directive with span? := if name.isEmpty then none else some name },
        .inField (position + 1))
    else .ok (directive, progress)
  | .inField first =>
    if c = '\x7d' then do
      let condition ← parseField (part text first position)
      return ({ directive with condition? := some condition }, .afterField)
    else .ok (directive, progress)
  | .afterField => if c = ']' then .ok (directive, .afterSpan) else .error .malformed
  | .afterSpan => if c = '=' then .ok (directive, .inLevel (position + 1)) else .error .malformed
  | .inLevel _ => .ok (directive, progress)

/-- Reads the characters from a position on. -/
def advanceAll (text : Bytes) (directive : LogDirective) (progress : Progress) (position : Nat) :
    List Char → Except Fault (LogDirective × Progress)
  | [] => .ok (directive, progress)
  | c :: rest => do
    let (directive, progress) ← directive.advance text progress position c
    advanceAll text directive progress (position + c.utf8Size) rest

/-- Completes a directive with the part that goes up to the end of the text. -/
def complete (text : Bytes) (directive : LogDirective) : Progress → Except Fault LogDirective
  | .inLevelOrSource first =>
    let last := part text first text.length
    match detail? last with
    | some detail => .ok { directive with detail }
    | none => .ok { directive with source := last }
  | .inLevel first =>
    let level := part text first text.length
    if level.isEmpty then .ok directive
    else match detail? level with
      | some detail => .ok { directive with detail }
      | none => .error .level
  | .afterSpan => .ok directive
  | _ => .error .malformed

/-- The directive that a text stands for. Without a level everything is shown. -/
def parse (text : String) : Except Fault LogDirective := do
  let octets := Utf8.encode text
  let (directive, progress) ← advanceAll octets {} .atStart 0 (Text.trim text.toList)
  directive.complete octets progress

/-- Whether a directive is about messages inside certain spans. -/
def isScoped (directive : LogDirective) : Bool :=
  directive.span?.isSome || directive.condition?.isSome

/-- Whether a directive is about messages wherever they stand. -/
def isGeneral (directive : LogDirective) : Bool :=
  directive.span?.isNone && (directive.condition?.bind FieldCondition.test?).isNone

/-- Whether a directive compares the value of a field. -/
def comparesValue (directive : LogDirective) : Bool :=
  (directive.condition?.bind FieldCondition.test?).isSome

/-- Whether a directive is about a source. -/
def concernsSource (directive : LogDirective) (source : String) : Bool :=
  directive.source.toList.isPrefixOf source.toList

/-- Whether a directive is about log messages from a source. The only field of a log message is its
text. -/
def concernsMessages (directive : LogDirective) (source : String) : Bool :=
  directive.concernsSource source &&
    match directive.condition? with
    | some condition => condition.name = "message"
    | none => true

/-- Whether a directive is about messages inside a span. -/
def concernsSpan (directive : LogDirective) (span : Span) : Bool :=
  directive.concernsSource span.source &&
    (match directive.span? with
      | some name => name = span.name
      | none => true) &&
    match directive.condition? with
    | some condition => (span.fields.lookup condition.name).isSome
    | none => true

/-- Whether the values of the fields of a span are as a directive asks. -/
def acceptsValues (directive : LogDirective) (span : Span) : Bool :=
  match directive.condition? with
  | some ⟨name, some test⟩ => ((span.fields.lookup name).map test.accepts).getD false
  | _ => true

/-- Whether the first of two directives decides where both are about a source, the second one being
later in the list: a longer text decides, then a condition, then the name of the field. -/
def outranks (earlier later : LogDirective) : Bool :=
  let rank := fun (directive : LogDirective) =>
    (directive.source.utf8ByteSize, if directive.condition?.isSome then 1 else 0)
  let name := fun (directive : LogDirective) =>
    (directive.condition?.map FieldCondition.name).getD ""
  (rank later).1 < (rank earlier).1 || ((rank later).1 = (rank earlier).1 &&
    ((rank later).2 < (rank earlier).2 || ((rank later).2 = (rank earlier).2 &&
      name later < name earlier)))

/-- Whether two directives are about the same. -/
def sameSubject (first second : LogDirective) : Bool :=
  first.source = second.source && first.span? = second.span? &&
    first.condition? = second.condition?

/-- A directive without a span and without a field is about messages wherever they stand. -/
@[simp] theorem isGeneral_plain (source : String) (detail : Nat) :
    isGeneral { source, detail } = true :=
  rfl

/-- A directive without a span and without a field is not about spans in particular. -/
@[simp] theorem isScoped_plain (source : String) (detail : Nat) :
    isScoped { source, detail } = false :=
  rfl

example : (parse "brewup=+03").toOption = some { source := "brewup", detail := 3 } := by
  decide +kernel
example : (parse "info ").toOption = some { source := "info " } := by decide +kernel
example : (parse "[run\x7bdry_run=true\x7d]=warn").toOption =
    some { span? := some "run", condition? := some ⟨"dry_run", some (.truth true)⟩, detail := 2 } := by
  decide +kernel
example : (parse "a[b]c").toOption = none := by decide +kernel

end LogDirective

end Cli

end HostProvision
