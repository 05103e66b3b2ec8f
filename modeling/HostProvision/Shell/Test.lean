import HostProvision.Shell.Variable

/-! # Tests

The expressions of `test`: questions about texts, numbers and files, joined by `!`, `-a`, `-o` and
brackets. Whether an argument is an operator depends on the arguments after it; with three arguments
an operator in the middle counts before anything else. -/

namespace HostProvision

namespace Shell

namespace Test

open Host (Device Item)

/-- A question about one text. -/
inductive Unary where
  /-- Whether the text is empty, or is not. -/
  | isEmpty | isNotEmpty
  /-- Whether there is a file of the name. -/
  | exists
  /-- Whether the file is of some kind. -/
  | isRegular | isDirectory | isLink | isCharacterDevice | isPipe | isSocket | isBlockDevice
  /-- Whether the file has a content. -/
  | hasContent
  /-- Whether the user may do something with the file. -/
  | canRead | canWrite | canExecute
  /-- Whether the file belongs to the user. -/
  | isOwn
  /-- Whether the file has a right of a rarer kind. -/
  | hasRareRight
  /-- Whether the descriptor of the number is a terminal. -/
  | isTerminal
  deriving DecidableEq, Repr

/-- A question about two texts. -/
inductive Binary where
  /-- Whether the texts are equal, or are not. -/
  | same | different
  /-- Whether the first text comes before the second one, or after it. -/
  | before | after
  /-- How the numbers compare. -/
  | numbers (holds : Int → Int → Bool)
  /-- Whether the files are the same. -/
  | sameFile
  /-- Whether the one file is newer than the other. -/
  | newer

/-- The operators before a text. -/
def unaryOperators : List (String × Unary) :=
  [("-z", .isEmpty), ("-n", .isNotEmpty), ("-e", .exists), ("-f", .isRegular),
   ("-d", .isDirectory), ("-h", .isLink), ("-L", .isLink), ("-c", .isCharacterDevice),
   ("-p", .isPipe), ("-S", .isSocket), ("-b", .isBlockDevice), ("-s", .hasContent),
   ("-r", .canRead), ("-w", .canWrite), ("-x", .canExecute), ("-O", .isOwn), ("-G", .isOwn),
   ("-u", .hasRareRight), ("-g", .hasRareRight), ("-k", .hasRareRight), ("-t", .isTerminal)]

/-- The operators between two texts. -/
def binaryOperators : List (String × Binary) :=
  [("=", .same), ("!=", .different), ("<", .before), (">", .after),
   ("-eq", .numbers (· == ·)), ("-ne", .numbers (· != ·)),
   ("-gt", .numbers fun a b => b < a), ("-ge", .numbers fun a b => b ≤ a),
   ("-lt", .numbers fun a b => a < b), ("-le", .numbers fun a b => a ≤ b),
   ("-nt", .newer), ("-ot", .newer), ("-ef", .sameFile)]

/-- The operator that a text is, among some. -/
def operator? {α : Type} (operators : List (String × α)) (text : Bytes) : Option α :=
  (operators.find? fun (operator, _) => ascii operator = text).map Prod.snd

/-- What an argument is in a test. -/
inductive Symbol where
  /-- Nothing: there is no argument. -/
  | finish
  /-- A text. -/
  | operand
  /-- An operator before a text. -/
  | unary (operator : Unary)
  /-- An operator between two texts. -/
  | binary (operator : Binary)
  /-- `!` -/
  | negation
  /-- `-a` -/
  | conjunction
  /-- `-o` -/
  | disjunction
  /-- `(` -/
  | opening
  /-- `)` -/
  | closing

/-- What the first of some arguments is. An operator before a text counts as a text itself if nothing
comes after it, or an operator between texts. -/
def symbol : List Bytes → Symbol
  | [] => .finish
  | text :: rest =>
    match operator? unaryOperators text, operator? binaryOperators text with
    | some operator, _ =>
      let isOperand := match rest with
        | [] => true
        | [_] => false
        | next :: _ => (operator? binaryOperators next).isSome
      if isOperand then .operand else .unary operator
    | none, some operator => .binary operator
    | none, none =>
      if text = ascii "!" then .negation
      else if text = ascii "-a" then .conjunction
      else if text = ascii "-o" then .disjunction
      else if text = ascii "(" && !rest.isEmpty then .opening
      else if text = ascii ")" then .closing
      else .operand

/-- The number that a text stands for. -/
def number (text : Bytes) : Except Bytes Int :=
  match Arithmetic.decimal? text with
  | some number => .ok number
  | none => .error (ascii "Illegal number: " ++ text)

/-- Whether a text comes before another one, octet by octet. -/
def isBefore (left right : Bytes) : Bool :=
  left ≠ right && Host.FileTree.precedes left right

/-- What a descriptor is connected to, as if it were a file. -/
def itemOf (state : State) (descriptor : Nat) : Option (Item ⊕ Unit) :=
  (state.descriptors.lookup descriptor).map fun stream =>
    match stream.channel with
    | .device device => .inl (.device device)
    | .file location _ _ => .inl ((state.shared.tree.item? location).getD .directory)
    | _ => .inr ()

/-- The answer to a question about what a path leads to. -/
def aboutItem (state : State) (operator : Unary) (location : Host.Location) (item : Item) : Bool :=
  let isOwn := state.shared.tree.mayMakeIn location.dropLast
  match operator, item with
  | .exists, _ => true
  | .isOwn, _ => isOwn
  | .isDirectory, .directory | .canRead, .directory | .canExecute, .directory
  | .hasContent, .directory => true
  | .canWrite, .directory => state.shared.tree.mayMakeIn location
  | .isRegular, .file .. | .isRegular, .tool _ => true
  | .hasContent, .file _ content => !content.isEmpty
  | .canRead, .file rights _ => rights.canRead
  | .canWrite, .file rights _ => rights.canWrite
  | .canExecute, .file rights _ => rights.canExecute
  | .hasContent, .tool _ | .canRead, .tool _ | .canExecute, .tool _ => true
  | .isCharacterDevice, .device _ | .canRead, .device _ | .canWrite, .device _ => true
  | .isLink, .link _ => true
  | _, _ => false

/-- The answer to a question about one text. -/
def unary (state : State) (operator : Unary) (text : Bytes) : Except Bytes Bool :=
  match operator with
  | .isEmpty => .ok text.isEmpty
  | .isNotEmpty => .ok !text.isEmpty
  | .isTerminal => (number text).map fun _ => false
  | .isLink =>
    match state.shared.tree.findItself state.directory text with
    | .ok (.present location item) => .ok (aboutItem state operator location item)
    | _ => .ok false
  | operator =>
    match state.find text with
    | .ok (.present location (.device (.descriptor descriptor))) =>
      match itemOf state descriptor with
      | some (.inl item) => .ok (aboutItem state operator location item)
      | some (.inr ()) =>
        .ok (operator = .isPipe || operator = .exists || operator = .isOwn ||
          operator = .canRead || operator = .canWrite)
      | none => .ok false
    | .ok (.present location item) => .ok (aboutItem state operator location item)
    | _ => .ok false

/-- The answer to a question about two texts. -/
def binary (state : State) (operator : Binary) (left right : Bytes) : Except Bytes Bool := do
  match operator with
  | .same => return left = right
  | .different => return left ≠ right
  | .before => return isBefore left right
  | .after => return isBefore right left
  | .numbers holds => return holds (← number left) (← number right)
  | .newer => return false
  | .sameFile =>
    match state.find left, state.find right with
    | .ok (.present a _), .ok (.present b _) => return a = b
    | _, _ => return false

/-- The words for an operator that misses an argument. -/
def missingArgument (args : List Bytes) : Bytes :=
  args.head?.getD [] ++ ascii ": argument expected"

mutual

/-- The answer to questions joined by `-o`, with the arguments from the last one of them on. -/
def anyOf (state : State) : Nat → Symbol → List Bytes → Except Bytes (Bool × List Bytes)
  | 0, _, args => .ok (false, args)
  | fuel + 1, first, args => do
    let (answer, args) ← allOf state fuel first args
    match symbol (args.drop 1) with
    | .disjunction =>
      let (more, args) ← anyOf state fuel (symbol (args.drop 2)) (args.drop 2)
      .ok (answer || more, args)
    | _ => .ok (answer, args)

/-- The answer to questions joined by `-a`, with the arguments from the last one of them on. -/
def allOf (state : State) : Nat → Symbol → List Bytes → Except Bytes (Bool × List Bytes)
  | 0, _, args => .ok (false, args)
  | fuel + 1, first, args => do
    let (answer, args) ← negated state fuel first args
    match symbol (args.drop 1) with
    | .conjunction =>
      let (more, args) ← allOf state fuel (symbol (args.drop 2)) (args.drop 2)
      .ok (answer && more, args)
    | _ => .ok (answer, args)

/-- The answer to a question that `!` may stand before. -/
def negated (state : State) : Nat → Symbol → List Bytes → Except Bytes (Bool × List Bytes)
  | 0, _, args => .ok (false, args)
  | fuel + 1, .negation, args => do
    match symbol (args.drop 1) with
    | .finish => .ok (true, args)
    | next =>
      let (answer, args) ← negated state fuel next (args.drop 1)
      .ok (!answer, args)
  | fuel + 1, first, args => single state fuel first args

/-- The answer to a single question, with the arguments from its last one on. -/
def single (state : State) : Nat → Symbol → List Bytes → Except Bytes (Bool × List Bytes)
  | 0, _, args => .ok (false, args)
  | _, .finish, args => .ok (false, args)
  | fuel + 1, .opening, args => do
    match symbol (args.drop 1) with
    | .closing => .ok (false, args.drop 1)
    | next =>
      let (answer, args) ← anyOf state fuel next (args.drop 1)
      match symbol (args.drop 1) with
      | .closing => .ok (answer, args.drop 1)
      | _ => .error (ascii "closing paren expected")
  | _, .unary operator, args =>
    match args.drop 1 with
    | [] => .error (missingArgument args)
    | text :: rest => do .ok (← unary state operator text, text :: rest)
  | _, _, args =>
    match symbol (args.drop 1) with
    | .binary operator =>
      match args.drop 2 with
      | [] => .error (missingArgument (args.drop 1))
      | right :: rest => do .ok (← binary state operator (args.head?.getD []) right, right :: rest)
    | _ => .ok (!(args.head?.getD []).isEmpty, args)

end

/-- The answer to a question that all arguments make up. -/
def whole (state : State) (first : Symbol) (args : List Bytes) : Except Bytes Bool := do
  let (answer, args) ← anyOf state (4 * (args.length + 1)) first args
  match args with
  | last :: _ :: _ =>
    .error ((if last = [] then [] else last ++ ascii ": ") ++ ascii "unexpected operator")
  | _ => .ok answer

/-- The answer to a test, or what is wrong with it. With three or four arguments an exclamation mark
in front makes the answer the opposite, once and for all. -/
def answerFrom (state : State) (isNegated : Bool) : List Bytes → Except Bytes Bool
  | [] => .ok isNegated
  | first :: rest =>
    let args := first :: rest
    let negating (answer : Except Bytes Bool) : Except Bytes Bool := answer.map (· != isNegated)
    let isShort := rest.length = 2 || rest.length = 3
    let isComparison :=
      rest.length = 2 && (operator? binaryOperators (rest.head?.getD [])).isSome
    if isComparison then negating (whole state .operand args)
    else if isShort && first = ascii "(" && rest.getLast? = some (ascii ")") then
      negating (whole state (symbol rest.dropLast) rest.dropLast)
    else if isShort && first = ascii "!" then answerFrom state true rest
    else negating (whole state (symbol args) args)

/-- The answer to a test, or what is wrong with it. -/
def answer (state : State) (args : List Bytes) : Except Bytes Bool :=
  answerFrom state false args

/-- Without arguments the answer is no. -/
@[simp] theorem answer_nil (state : State) : answer state [] = .ok false :=
  rfl

end Test

end Shell

end HostProvision
