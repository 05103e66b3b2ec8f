import HostProvision.Shell.Reader

/-! # Reading words

A word is read from its first character to the first unquoted character that ends it. A `Region`
says which characters have a meaning: outside quotes, between double quotes, between the braces of a
parameter, in an integer expression, and in a text that stands in the script. What stands inside a
command substitution is read by actions that `Nested` supplies, as it consists of commands. -/

namespace HostProvision

namespace Shell

/-- Where parts of a word are read. -/
inductive Region where
  /-- Outside quotes and braces. -/
  | word
  /-- Between double quotes, which may stand between braces. -/
  | doubleQuotes (inBraces : Bool)
  /-- Between the braces of a parameter, where quotes around them may count. -/
  | braces (isQuoted : Bool)
  /-- In an integer expression. -/
  | arithmetic
  /-- In a text that is expanded. -/
  | document
  deriving DecidableEq, Repr

namespace Region

/-- Whether the characters of a region are quoted. -/
def isQuoted : Region → Bool
  | word => false
  | braces isQuoted => isQuoted
  | _ => true

/-- Whether a region lies between braces. -/
def inBraces : Region → Bool
  | doubleQuotes inBraces => inBraces
  | braces _ => true
  | _ => false

/-- Whether a backslash takes the meaning of a character in a region, and vanishes. -/
def unescapes (region : Region) (c : Char) : Bool :=
  !region.isQuoted || c = '\\' || c = '\x60' || c = '$' ||
    (c = '"' && region ≠ .document) || (c = '\x7d' && region.inBraces)

/-- What is malformed about a script that ends inside a region, if anything is. -/
def unclosed? (region : Region) (inDocument : Bool) : Option String :=
  let quotes := some "Unterminated quoted string"
  let braces := some "Missing '\x7d'"
  match region with
  | word | document => none
  | doubleQuotes _ => if inDocument then braces else quotes
  | .braces isQuoted => if isQuoted && !inDocument then quotes else braces
  | arithmetic => some "Missing '))'"

end Region

/-- Whether a character ends a word when it is not quoted. -/
def endsWord (c : Char) : Bool :=
  c = ' ' || c = '\t' || c = '\n' || c = ';' || c = '&' || c = '|' || c = '<' || c = '>' ||
    c = '(' || c = ')'

/-- Whether a character stands for itself wherever it is read. -/
def isOrdinary (c : Char) : Bool :=
  !(endsWord c || c = '\\' || c = '\'' || c = '"' || c = '\x60' || c = '$' || c = '\x7d')

/-- The parts of a word that have been read so far, last first. -/
structure Draft where
  /-- The complete parts. -/
  parts : List Fragment := []
  /-- The octets of the text that may go on. -/
  text : Bytes := []

namespace Draft

/-- Adds characters that stand for themselves. -/
def add (draft : Draft) (chars : List Char) : Draft :=
  { draft with text := chars.foldl (fun text c => octetOf c :: text) draft.text }

/-- The parts so far, last first. -/
def close (draft : Draft) : List Fragment :=
  if draft.text.isEmpty then draft.parts else .text draft.text.reverse :: draft.parts

/-- Adds a part. -/
def append (draft : Draft) (part : Fragment) : Draft :=
  ⟨part :: draft.close, []⟩

/-- Adds a character that a backslash quotes. -/
def escape (draft : Draft) (region : Region) (c : Char) : Draft :=
  if region.isQuoted then draft.add [c] else draft.append (.escaped (octetOf c))

/-- The parts in order. -/
def finish (draft : Draft) : List Fragment :=
  draft.close.reverse

/-- Nothing has been read at first. -/
@[simp] theorem finish_empty : ({} : Draft).finish = [] :=
  rfl

end Draft

/-- How the commands inside a command substitution are read. -/
structure Nested where
  /-- Reads commands up to a closing bracket. -/
  parenthesised : Reading Command
  /-- Reads commands up to the end of the script. -/
  whole : Reading Command

/-- The parameter that a single character stands for. -/
def specialParameter? (c : Char) : Option Parameter :=
  match c with
  | '@' => some (.all false)
  | '*' => some (.all true)
  | '#' => some .count
  | '?' => some .status
  | '$' => some .process
  | '-' => some .options
  | '!' => some .background
  | c => if c.isDigit then some (.position (c.toNat - '0'.toNat)) else none

/-- The number that decimal digits stand for. -/
def decimalValue (digits : List Char) : Nat :=
  digits.foldl (fun n c => n * 10 + (c.toNat - '0'.toNat)) 0

/-- The form that a character after a parameter introduces. -/
def form? (c : Char) (emptyIsMissing : Bool) : Option Form :=
  match c with
  | '-' => some (.use emptyIsMissing)
  | '=' => some (.assign emptyIsMissing)
  | '?' => some (.refuse emptyIsMissing)
  | '+' => some (.invert emptyIsMissing)
  | '\x7d' => some .plain
  | _ => none

namespace Reading

/-- Takes the characters that stand for themselves from here on. -/
def takeOrdinary : Reading (List Char) :=
  modifyGet fun reader =>
    let run := if reader.isPastDelimiter then [] else reader.text.takeWhile isOrdinary
    if run.isEmpty then ([], reader)
    else
      let reader := reader.echo
      (run, { reader with text := reader.text.drop run.length, ended := [] })

/-- Takes characters of a class. -/
def takeRun (accepts : Char → Bool) : Nat → List Char → Reading (List Char)
  | 0, taken => return taken.reverse
  | fuel + 1, taken => do
    let c ← nextJoined
    match c.filter accepts with
    | some c => takeRun accepts fuel (c :: taken)
    | none =>
      back c
      return taken.reverse

/-- How many characters a part of a word may have. -/
def maxLength : Nat := 10000000

/-- At the beginning of a line, notices the end of the text that is being read. -/
def checkDelimiter : Reading Unit :=
  modify fun reader =>
    match reader.delimiter with
    | none => reader
    | some delimiter =>
      let reader := reader.echo
      let text :=
        if delimiter.stripsTabs then reader.text.dropWhile (· = '\t') else reader.text
      let past (text : List Char) : Reader :=
        { reader with text, line := reader.line + 1, startsLine := true, isPastDelimiter := true }
      if delimiter.line.isPrefixOf text then
        match text.drop delimiter.line.length with
        | [] => past []
        | '\n' :: rest => past rest
        | _ => { reader with text }
      else { reader with text }

/-- Does what is done at the beginning of a line inside a word. -/
def beginLine : Reading Unit := do
  if (← get).delimiter.isSome then
    skipJoints maxJoints
    checkDelimiter

/-- Takes the characters up to an apostrophe. -/
def takeSingleQuoted : Nat → List Char → Reading (List Char)
  | 0, taken => return taken.reverse
  | fuel + 1, taken => do
    match ← next with
    | some '\'' => return taken.reverse
    | some '\n' =>
      countLine
      checkDelimiter
      takeSingleQuoted fuel ('\n' :: taken)
    | some c => takeSingleQuoted fuel (c :: taken)
    | none =>
      malformed (((Region.doubleQuotes true).unclosed? (← get).delimiter.isSome).getD "")

/-- Takes the characters up to a backquote. A backslash protects a dollar sign, a backquote or a
backslash, and inside double quotes a double quote. -/
def takeBackquoted (isQuoted : Bool) : Nat → List Char → Reading (List Char)
  | 0, taken => return taken.reverse
  | fuel + 1, taken => do
    match ← nextJoined with
    | some '\x60' => return taken.reverse
    | some '\\' =>
      match ← next with
      | some c =>
        let isProtected := c = '\\' || c = '\x60' || c = '$' || (isQuoted && c = '"')
        takeBackquoted isQuoted fuel (if isProtected then c :: taken else c :: '\\' :: taken)
      | none => malformed "EOF in backquote substitution"
    | some '\n' =>
      countLine
      takeBackquoted isQuoted fuel ('\n' :: taken)
    | some c => takeBackquoted isQuoted fuel (c :: taken)
    | none => malformed "EOF in backquote substitution"

/-- Reads commands from a text of their own. -/
def inside (inner : List Char) (read : Reading Command) : Reading Command := do
  let outer ← get
  set { outer with
    text := inner, layers := [], ended := [], line := 1, isEchoing := false, awaited := []
    delimiter := none, isPastDelimiter := false, isPushedBack := false }
  let body ← read
  modify fun reader =>
    { reader with
      text := outer.text, layers := outer.layers, ended := outer.ended, line := outer.line
      startsLine := outer.startsLine, isEchoing := outer.isEchoing, awaited := outer.awaited
      delimiter := outer.delimiter, isPastDelimiter := outer.isPastDelimiter
      isPushedBack := false }
  return body

/-- Reads commands inside a word, with no text awaited or being read. -/
def enclosed (read : Reading Command) : Reading Command := do
  let outer ← get
  set { outer with awaited := [], delimiter := none }
  let body ← read
  modify fun reader => { reader with awaited := outer.awaited, delimiter := outer.delimiter }
  return body

end Reading

open Reading

/-- What a dollar sign with an opening brace introduces: a parameter and its form, and whether a
word follows up to the closing brace. -/
def readParameter : Reading (Parameter × Form × Bool) := do
  let name (c : Char) : Reading Parameter := do
    return .named (String.ofList (c :: (← takeRun continuesName maxLength [])))
  let position (c : Char) : Reading Parameter := do
    return .position (decimalValue (c :: (← takeRun Char.isDigit maxLength [])))
  -- What stands between the parameter and its word.
  let form (parameter : Parameter) (c : Option Char) : Reading (Parameter × Form × Bool) := do
    match c with
    | some '\x7d' => return (parameter, .plain, false)
    | some ':' => return (parameter, ((← nextJoined).bind (form? · true)).getD .unknown, true)
    | some '%' =>
      let c ← nextJoined
      if c = some '%' then return (parameter, .trimEnd true, true)
      back c
      return (parameter, .trimEnd false, true)
    | some '#' =>
      let c ← nextJoined
      if c = some '#' then return (parameter, .trimStart true, true)
      back c
      return (parameter, .trimStart false, true)
    | c => return (parameter, (c.bind (form? · false)).getD .unknown, true)
  let unknown (c : Option Char) : Reading (Parameter × Form × Bool) := do
    back c
    return (.status, .unknown, true)
  let length (parameter : Parameter) : Reading (Parameter × Form × Bool) := do
    match ← nextJoined with
    | some '\x7d' => return (parameter, .length, false)
    | c => unknown c
  match ← nextJoined with
  | none => unknown none
  | some c =>
    if startsName c then
      let parameter ← name c
      form parameter (← nextJoined)
    else if c.isDigit then
      let parameter ← position c
      form parameter (← nextJoined)
    else if c = '\x7d' then unknown (some c)
    else
      let after ← nextJoined
      if c ≠ '#' then
        match specialParameter? c with
        | some parameter => form parameter after
        | none => unknown after
      else match after with
        | none => form .count none
        | some d =>
          if startsName d then length (← name d)
          else if d.isDigit then length (← position d)
          else
            let closing ← nextJoined
            if d = '\x7d' || closing ≠ some '\x7d' then
              back closing
              form .count (some d)
            else match specialParameter? d with
              | some parameter => return (parameter, .length, false)
              | none => unknown closing

mutual

/-- Reads what a dollar sign introduces. A dollar sign that introduces nothing stands for itself. -/
def readDollar (nested : Nested) : Nat → Region → Reading (Option Fragment)
  | 0, _ => return none
  | fuel + 1, region => do
    if (← get).expected.delimiter then return none
    match ← nextJoined with
    | none => return none
    | some '(' =>
      let c ← nextJoined
      if c = some '(' then
        return some (.arithmetic (← readParts nested fuel .arithmetic 0 {}))
      back c
      return some (.output (← enclosed nested.parenthesised))
    | some '\x7b' =>
      let (parameter, form, hasWord) ← readParameter
      if !hasWord then return some (.parameter parameter form [])
      let isQuoted := match form with
        | .trimStart _ | .trimEnd _ => false
        | _ => region.isQuoted
      return some (.parameter parameter form (← readParts nested fuel (.braces isQuoted) 0 {}))
    | some c =>
      if startsName c then
        let name := String.ofList (c :: (← takeRun continuesName maxLength []))
        return some (.parameter (.named name) .plain [])
      match specialParameter? c with
      | some parameter => return some (.parameter parameter .plain [])
      | none =>
        back (some c)
        return none

/-- Reads parts of a word up to the end of a region, given the parts before and the number of
brackets that are open in an integer expression. -/
def readParts (nested : Nested) : Nat → Region → Nat → Draft → Reading (List Fragment)
  | 0, _, _, draft => return draft.finish
  | fuel + 1, region, depth, draft => do
    let draft := draft.add (← takeOrdinary)
    let goOn (draft : Draft) : Reading (List Fragment) :=
      readParts nested fuel region depth draft
    match ← nextJoined with
    | none =>
      match region.unclosed? (← get).delimiter.isSome with
      | some words => malformed words
      | none => return draft.finish
    | some c =>
      if region = .word && endsWord c then
        back (some c)
        return draft.finish
      match c with
      | '\n' =>
        countLine
        beginLine
        goOn (draft.add [c])
      | '\\' =>
        match ← next with
        | none => goOn (draft.escape region c)
        | some d =>
          let draft := if region.unescapes d then draft else draft.escape region c
          goOn (draft.escape region d)
      | '\'' =>
        if region.isQuoted then goOn (draft.add [c])
        else
          let chars ← takeSingleQuoted maxLength []
          goOn (draft.append (.quoted [.text (chars.map octetOf)]))
      | '"' =>
        match region with
        | .doubleQuotes _ => return draft.finish
        | .document | .arithmetic => goOn (draft.add [c])
        | region =>
          let parts ← readParts nested fuel (.doubleQuotes region.inBraces) 0 {}
          goOn (draft.append (.quoted parts))
      | '\x60' =>
        if (← get).expected.delimiter then goOn (draft.append (.escaped (octetOf c)))
        else
          let inner ← takeBackquoted region.isQuoted maxLength []
          goOn (draft.append (.output (← inside inner nested.whole)))
      | '$' =>
        match ← readDollar nested fuel region with
        | some part => goOn (draft.append part)
        | none => goOn (draft.add [c])
      | '\x7d' =>
        match region with
        | .braces _ => return draft.finish
        | _ => goOn (draft.add [c])
      | '(' =>
        let depth := if region = .arithmetic then depth + 1 else depth
        readParts nested fuel region depth (draft.add [c])
      | ')' =>
        if region ≠ .arithmetic then goOn (draft.add [c])
        else if 0 < depth then readParts nested fuel region (depth - 1) (draft.add [c])
        else
          let d ← nextJoined
          if d = some ')' then return draft.finish
          back d
          goOn (draft.add [c])
      | c => goOn (draft.add [c])

end

/-- Reads a word. -/
def readWord (nested : Nested) : Reading Word :=
  readParts nested maxLength .word 0 {}

/-- Whether a part of a word is quoted. -/
def Fragment.isQuoted : Fragment → Bool
  | .escaped _ | .quoted _ => true
  | _ => false

mutual

/-- The octets of the literal parts of a part of a word. -/
def Fragment.literal : Fragment → Bytes
  | .text octets => octets
  | .escaped octet => [octet]
  | .quoted parts => literals parts
  | _ => []

/-- The octets of the literal parts of a word. -/
def literals : List Fragment → Bytes
  | [] => []
  | part :: parts => part.literal ++ literals parts

end

/-! ### Texts inside a script -/

/-- Takes the lines of a text that is not expanded. -/
def takeLines : Nat → List Char → Reading (List Char)
  | 0, taken => return taken.reverse
  | fuel + 1, taken => do
    checkDelimiter
    let reader ← get
    if reader.isPastDelimiter || reader.text.isEmpty then return taken.reverse
    let line := reader.text.takeWhile (· ≠ '\n')
    let rest := reader.text.drop line.length
    match rest with
    | [] =>
      set { reader with text := [] }
      return (line.reverse ++ taken).reverse
    | _ :: rest =>
      set { reader with text := rest, line := reader.line + 1, startsLine := true }
      takeLines fuel ('\n' :: (line.reverse ++ taken))

/-- Reads a text that is awaited. -/
def readDocument (nested : Nested) (awaited : Awaited) : Reading Unit := do
  modify fun reader =>
    { reader.leaveLayers reader.layers with
      delimiter := some awaited.delimiter, isPastDelimiter := false }
  let word ←
    if awaited.isExpanded then
      beginLine
      readParts nested maxLength .document 0 {}
    else
      let lines ← takeLines maxLength []
      pure [.quoted [.text (lines.map octetOf)]]
  modify fun reader =>
    { reader with
      documents := (awaited.index, word) :: reader.documents
      delimiter := none, isPastDelimiter := false }

/-- Reads the texts that are awaited. -/
def readDocuments (nested : Nested) : Reading Unit := do
  let awaited := (← get).awaited
  modify fun reader => { reader with awaited := [] }
  for document in awaited do
    readDocument nested document

end Shell

end HostProvision
