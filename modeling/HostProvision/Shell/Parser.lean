import HostProvision.Shell.Word

/-! # Reading commands

`Reader.nextCommand` reads a script by one complete command at a time: a shell carries a command out
before it reads the next one, so what is malformed later matters only later. The grammar is read by
descent from lists of commands to simple commands. A token that does not belong to what has been read
is pushed back and read again; whether it may be a reserved word or an alias is said before it is
read. -/

namespace HostProvision

namespace Shell

open Reading

/-! ### Tokens -/

/-- Says what the next token may be. -/
def expect (expected : Expected) : Reading Unit :=
  modify fun reader => { reader with expected }

/-- Has the last token read again. -/
def pushBack : Reading Unit :=
  modify fun reader => { reader with isPushedBack := true }

/-- Passes over a comment. -/
def skipComment : Nat → Reading Unit
  | 0 => return
  | fuel + 1 => do
    modify fun reader =>
      let reader := reader.echo
      { reader with text := reader.text.dropWhile (· ≠ '\n') }
    match ← next with
    | none => return
    | some '\n' => back (some '\n')
    | some _ => skipComment fuel

/-- Reads the rest of a redirection operator, given its first character and the descriptor before
it. -/
def readOperator (descriptor : Option Nat) (c : Char) : Reading Token := do
  let operator ←
    if c = '>' then
      match ← nextJoined with
      | some '>' => pure (.file .append)
      | some '|' => pure (.file (.write false))
      | some '&' => pure .duplicate
      | c =>
        back c
        pure (.file (.write true))
    else
      match ← nextJoined with
      | some '<' =>
        match ← nextJoined with
        | some '-' => pure (.document true)
        | c =>
          back c
          pure (.document false)
      | some '&' => pure .duplicate
      | some '>' => pure (.file .readWrite)
      | c =>
        back c
        pure (Operator.file .read)
  modify fun reader =>
    { reader with redirection := (descriptor.getD (if c = '>' then 1 else 0), operator) }
  return .redirection

/-- Reads a word, or the operator of a redirection with the digit before it. -/
def readWordToken (nested : Nested) : Reading Token := do
  let word ← readWord nested
  let reader ← get
  let descriptor? : Option (Option Nat) := match word with
    | [] => some none
    | [.text [digit]] =>
      let c := Char.ofNat digit.toNat
      if c.isDigit then some (some (decimalValue [c])) else none
    | _ => none
  match descriptor?, reader.text.head? with
  | some descriptor, some '<' =>
    discard next
    readOperator descriptor '<'
  | some descriptor, some '>' =>
    discard next
    readOperator descriptor '>'
  | _, _ =>
    set { reader with word }
    return .word

/-- Reads a token without regard to reserved words and aliases. -/
def readRawToken (nested : Nested) : Nat → Reading Token
  | 0 => unexpected
  | fuel + 1 => do
    let double (second : Char) (long short : Token) : Reading Token := do
      let c ← nextJoined
      if c = some second then return long
      back c
      return short
    match ← nextJoined with
    | none => return .endOfFile
    | some c =>
      match c with
      | ' ' | '\t' => readRawToken nested fuel
      | '#' =>
        skipComment maxLength
        readRawToken nested fuel
      | '\n' =>
        countLine
        return .newline
      | '&' => double '&' .andThen .background
      | '|' => double '|' .orElse .pipe
      | ';' => double ';' .endOfClause .semicolon
      | '(' => return .openParen
      | ')' => return .closeParen
      | c =>
        back (some c)
        readWordToken nested

/-- Reads a token again if it was pushed back, and a new one otherwise. -/
def readPlainToken (nested : Nested) : Reading Token := do
  let reader ← get
  if reader.isPushedBack then
    set { reader with isPushedBack := false }
    return reader.token
  let token ← readRawToken nested maxLength
  modify fun reader => { reader with token }
  return token

/-- Passes over line ends, after which texts may be awaited. -/
def skipNewlines (nested : Nested) : Nat → Token → Reading Token
  | fuel + 1, .newline => do
    readDocuments nested
    expect {}
    skipNewlines nested fuel (← readPlainToken nested)
  | _, token => return token

/-- Reads a token, given what it may be. -/
def readTokenAs (nested : Nested) : Nat → Expected → Reading Token
  | 0, _ => unexpected
  | fuel + 1, expected => do
    let token ← readPlainToken nested
    let token ←
      if expected.skipsNewlines then skipNewlines nested maxLength token else pure token
    let reader ← get
    -- A blank at the end of an alias makes the word after it one, too.
    let expected := { expected with
      reserved := expected.reserved || reader.expected.reserved
      aliased := expected.aliased || reader.expected.aliased }
    expect {}
    match token, reader.word with
    | .word, [.text octets] =>
      let text := String.ofList (charsOf octets)
      match (if expected.reserved then Reserved.ofSpelling? text else none),
        (if expected.aliased then reader.alias? text else none) with
      | some keyword, _ =>
        modify fun reader => { reader with token := .reserved keyword }
        return .reserved keyword
      | none, some value =>
        modify (·.enterAlias text value)
        readTokenAs nested fuel expected
      | none, none => return token
    | token, _ => return token

/-- Reads a token. -/
def readToken (nested : Nested) : Reading Token := do
  readTokenAs nested maxLength (← get).expected

/-! ### Redirections -/

/-- Reads what follows the operator of a redirection. -/
def readTarget (nested : Nested) : Reading Redirection := do
  let (descriptor, operator) := (← get).redirection
  if let .document _ := operator then expect { delimiter := true }
  if (← readToken nested) ≠ .word then unexpected
  let word := (← get).word
  match operator with
  | .file use => return .connect descriptor (.file use word)
  | .duplicate =>
    match word with
    | [.text [octet]] =>
      let c := Char.ofNat octet.toNat
      if c.isDigit then return .connect descriptor (.descriptor (decimalValue [c]))
      if c = '-' then return .connect descriptor .nothing
      return .connect descriptor (.descriptorNamed word)
    | word => return .connect descriptor (.descriptorNamed word)
  | .document stripsTabs =>
    let reader ← get
    let awaited : Awaited :=
      { index := reader.documentCount
        delimiter := ⟨charsOf (literals word), stripsTabs⟩
        isExpanded := !word.any Fragment.isQuoted }
    set { reader with
      documentCount := reader.documentCount + 1, awaited := reader.awaited ++ [awaited] }
    return .connect descriptor (.document awaited.index)

/-- Reads the redirections after a compound command. -/
def readRedirections (nested : Nested) : Nat → Reading (List Redirection)
  | 0 => return []
  | fuel + 1 => do
    if (← readToken nested) = .redirection then
      let redirection ← readTarget nested
      return redirection :: (← readRedirections nested fuel)
    pushBack
    return []

/-! ### Simple commands -/

/-- The name and the value of the assignment that a word stands for. -/
def assignment? (word : Word) : Option (String × Word) :=
  match word with
  | .text octets :: rest =>
    let chars := charsOf octets
    let name := chars.takeWhile continuesName
    match chars.drop name.length with
    | '=' :: value =>
      if isName (String.ofList name) then
        some (String.ofList name,
          if value.isEmpty then rest else .text (value.map octetOf) :: rest)
      else none
    | _ => none
  | _ => none

/-- The parts of a simple command that have been read, last first. -/
structure SimpleParts where
  /-- The assignments before the first word. -/
  assignments : List (String × Word) := []
  /-- The words. -/
  words : List Word := []
  /-- The redirections. -/
  redirections : List Redirection := []

/-- Reads words of a `for` command. -/
def readWords (nested : Nested) : Nat → Reading (List Word)
  | 0 => return []
  | fuel + 1 => do
    if (← readToken nested) = .word then
      let word := (← get).word
      return word :: (← readWords nested fuel)
    return []

/-- Reads patterns up to the first token that no bar follows. -/
def readPatterns (nested : Nested) : Nat → Reading (List Word)
  | 0 => return []
  | fuel + 1 => do
    let word := (← get).word
    if (← readToken nested) ≠ .pipe then return [word]
    discard (readToken nested)
    return word :: (← readPatterns nested fuel)

/-! ### Commands -/

/-- How far a list of commands reaches. -/
inductive Extent where
  /-- To the end of a line. -/
  | line
  /-- To a token that ends lists, with at least one command. -/
  | body
  /-- To a token that ends lists. -/
  | optional
  deriving DecidableEq, Repr

/-- What is expected where a command begins, after line ends. -/
def atCommand : Expected :=
  { skipsNewlines := true, reserved := true, aliased := true }

/-- Reads a token that has to be there. -/
def demand (nested : Nested) (token : Token) : Reading Unit := do
  if (← readToken nested) ≠ token then missing token

mutual

/-- How what stands inside words is read. -/
def nestedAt : Nat → Nested
  | 0 => ⟨unexpected, unexpected⟩
  | fuel + 1 =>
    { parenthesised := do
        let body ← readList fuel .optional none
        demand (nestedAt fuel) .closeParen
        -- Texts that are still awaited are empty.
        let outer ← get
        unless outer.awaited.isEmpty do
          set { outer with text := [], layers := [], isEchoing := false }
          readDocuments (nestedAt fuel)
          modify fun reader =>
            { reader with
              text := outer.text, layers := outer.layers, line := outer.line
              isEchoing := outer.isEchoing }
        return body.getD .skip
      whole := do return (← readList fuel .optional none).getD .skip }

/-- Reads a list of commands, given the commands before. -/
def readList : Nat → Extent → Option Command → Reading (Option Command)
  | 0, _, _ => unexpected
  | fuel + 1, extent, before => do
    let nested := nestedAt fuel
    expect { atCommand with skipsNewlines := extent ≠ .line }
    let token ← readToken nested
    match token with
    | .newline =>
      readDocuments nested
      return before
    | .endOfFile =>
      readDocuments nested
      pushBack
      return before
    | token =>
      pushBack
      if extent ≠ .line && (extent = .optional || before.isSome) && token.endsList then
        return before
      let command ← readChain fuel
      let token ← readToken nested
      let command := if token = .background then .background command else command
      let commands := match before with
        | some before => .sequence before command
        | none => command
      match token with
      | .endOfFile =>
        readDocuments nested
        modify fun reader => { reader with token := .endOfFile }
        pushBack
        return some commands
      | .newline =>
        pushBack
        readList fuel extent (some commands)
      | .background | .semicolon => readList fuel extent (some commands)
      | _ =>
        if extent = .line then unexpected
        pushBack
        return some commands

/-- Reads pipelines joined by `&&` and `||`. -/
def readChain : Nat → Reading Command
  | 0 => unexpected
  | fuel + 1 => do readChainRest fuel (← readPipeline fuel)

/-- Reads the further pipelines of a chain. -/
def readChainRest : Nat → Command → Reading Command
  | 0, _ => unexpected
  | fuel + 1, first => do
    match ← readToken (nestedAt fuel) with
    | .andThen =>
      expect atCommand
      readChainRest fuel (.andThen first (← readPipeline fuel))
    | .orElse =>
      expect atCommand
      readChainRest fuel (.orElse first (← readPipeline fuel))
    | _ =>
      pushBack
      return first

/-- Reads a pipeline. -/
def readPipeline : Nat → Reading Command
  | 0 => unexpected
  | fuel + 1 => do
    let isNegated := (← readToken (nestedAt fuel)) = .reserved .negation
    if isNegated then expect { reserved := true, aliased := true } else pushBack
    let first ← readCommand fuel
    let rest ← readPipelineRest fuel
    let pipeline := if rest.isEmpty then first else .pipeline (first :: rest)
    return if isNegated then .negation pipeline else pipeline

/-- Reads the further commands of a pipeline. -/
def readPipelineRest : Nat → Reading (List Command)
  | 0 => unexpected
  | fuel + 1 => do
    if (← readToken (nestedAt fuel)) = .pipe then
      expect atCommand
      let command ← readCommand fuel
      return command :: (← readPipelineRest fuel)
    pushBack
    return []

/-- Reads a command. -/
def readCommand : Nat → Reading Command
  | 0 => unexpected
  | fuel + 1 => do
    let nested := nestedAt fuel
    let line := (← get).line
    let body : Reading Command := do return (← readList fuel .body none).getD .skip
    -- Redirections may follow.
    let withRedirections (command : Command) : Reading Command := do
      expect { reserved := true, aliased := true }
      let redirections ← readRedirections nested maxLength
      match command, redirections with
      | command, [] => return command
      | .subshell line inner _, redirections => return .subshell line inner redirections
      | command, redirections => return .redirected line command redirections
    match ← readToken nested with
    | .reserved .ifWord => do
      let command ← readConditional fuel
      demand nested (.reserved .fiWord)
      withRedirections command
    | .reserved .whileWord | .reserved .untilWord => do
      let whileSucceeds := (← get).token = .reserved .whileWord
      let test ← body
      demand nested (.reserved .doWord)
      let repeated ← body
      demand nested (.reserved .doneWord)
      withRedirections (.loop whileSucceeds test repeated)
    | .reserved .forWord => do
      let token ← readToken nested
      let name := match token, (← get).word with
        | .word, [.text octets] => String.ofList (charsOf octets)
        | _, _ => ""
      if !isName name then malformed "Bad for loop variable"
      expect atCommand
      let words ←
        if (← readToken nested) = .reserved .inWord then
          let words ← readWords nested maxLength
          let token := (← get).token
          if token ≠ .newline && token ≠ .semicolon then unexpected
          pure words
        else
          if (← get).token ≠ .semicolon then pushBack
          pure [[.quoted [.parameter (.all false) .plain []]]]
      expect atCommand
      demand nested (.reserved .doWord)
      let repeated ← body
      demand nested (.reserved .doneWord)
      withRedirections (.forEach line name words repeated)
    | .reserved .caseWord => do
      demand nested .word
      let subject := (← get).word
      expect atCommand
      demand nested (.reserved .inWord)
      let clauses ← readClauses fuel
      withRedirections (.choose line subject clauses)
    | .openParen => do
      let inner ← body
      demand nested .closeParen
      withRedirections (.subshell line inner [])
    | .reserved .openBrace => do
      let inner ← body
      demand nested (.reserved .closeBrace)
      withRedirections inner
    | .word | .redirection => do
      pushBack
      readSimple fuel (← get).line true {}
    | _ => unexpected

/-- Reads a conditional after its first word, up to its last one. -/
def readConditional : Nat → Reading Command
  | 0 => unexpected
  | fuel + 1 => do
    let nested := nestedAt fuel
    let test ← readList fuel .body none
    demand nested (.reserved .thenWord)
    let thenBody ← readList fuel .body none
    let elseBody ← match ← readToken nested with
      | .reserved .elifWord => do pure (some (← readConditional fuel))
      | .reserved .elseWord => readList fuel .body none
      | _ => do
        pushBack
        pure none
    return .conditional (test.getD .skip) (thenBody.getD .skip) elseBody

/-- Reads the clauses of a choice. -/
def readClauses : Nat → Reading (List (List Word × Command))
  | 0 => unexpected
  | fuel + 1 => do
    let nested := nestedAt fuel
    expect { skipsNewlines := true, reserved := true }
    let token ← readToken nested
    if token = .reserved .esacWord then return []
    if token = .openParen then discard (readToken nested)
    let patterns ← readPatterns nested maxLength
    if (← get).token ≠ .closeParen then missing .closeParen
    let body := (← readList fuel .optional none).getD .skip
    expect { skipsNewlines := true, reserved := true }
    match ← readToken nested with
    | .reserved .esacWord => return [(patterns, body)]
    | .endOfClause => return (patterns, body) :: (← readClauses fuel)
    | _ => missing .endOfClause

/-- Reads the parts of a simple command, or the definition of a function. -/
def readSimple : Nat → Nat → Bool → SimpleParts → Reading Command
  | 0, _, _, _ => unexpected
  | fuel + 1, line, mayAssign, parts => do
    let nested := nestedAt fuel
    let finish : Reading Command := do
      pushBack
      return .simple line parts.assignments.reverse parts.words.reverse parts.redirections.reverse
    expect { aliased := mayAssign }
    match ← readToken nested with
    | .word =>
      let word := (← get).word
      match (if mayAssign then assignment? word else none) with
      | some assignment =>
        readSimple fuel line mayAssign
          { parts with assignments := assignment :: parts.assignments }
      | none => readSimple fuel line false { parts with words := word :: parts.words }
    | .redirection =>
      let redirection ← readTarget nested
      readSimple fuel line mayAssign
        { parts with redirections := redirection :: parts.redirections }
    | .openParen =>
      match parts with
      | ⟨[], [word], []⟩ =>
        demand nested .closeParen
        let name := match word with
          | [.text octets] => String.ofList (charsOf octets)
          | _ => ""
        if !isName name || Command.specialNames.contains name then
          malformed "Bad function name"
        expect atCommand
        return .define name (← readCommand fuel)
      | _ => finish
    | _ => finish

end

/-! ### Scripts -/

namespace Reader

/-- How deep commands may be nested. -/
def maxNesting : Nat := 1000000

/-- A reader at the beginning of a script. -/
def ofText (text : List Char) : Reader :=
  { text }

/-- Reads the next complete command: none at the end of the script, and a command that does nothing
for an empty line. -/
def nextCommand (reader : Reader) : Except String (Option Command) × Reader :=
  let read : Reading (Option Command) := do
    let command ← readList maxNesting .line none
    match command with
    | some command => return some command
    | none => return if (← get).token = .endOfFile then none else some .skip
  read.run.run { reader with
    expected := {}, isPushedBack := false, awaited := [], echoed := [] }

end Reader

end Shell

end HostProvision
