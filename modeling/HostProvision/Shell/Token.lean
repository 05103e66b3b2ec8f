/-! # Tokens

The units of a script between which blanks may stand. A reserved word is one only where a command
may begin; elsewhere it is a word like any other. `Token.shown` is how a token appears in complaints
about a script. -/

namespace HostProvision

namespace Shell

/-- A word that has a meaning where a command may begin. -/
inductive Reserved where
  /-- `!` -/
  | negation
  /-- `case` -/
  | caseWord
  /-- `do` -/
  | doWord
  /-- `done` -/
  | doneWord
  /-- `elif` -/
  | elifWord
  /-- `else` -/
  | elseWord
  /-- `esac` -/
  | esacWord
  /-- `fi` -/
  | fiWord
  /-- `for` -/
  | forWord
  /-- `if` -/
  | ifWord
  /-- `in` -/
  | inWord
  /-- `then` -/
  | thenWord
  /-- `until` -/
  | untilWord
  /-- `while` -/
  | whileWord
  /-- An opening brace. -/
  | openBrace
  /-- A closing brace. -/
  | closeBrace
  deriving DecidableEq, Repr

namespace Reserved

/-- All reserved words with their spellings. -/
def spellings : List (String × Reserved) :=
  [("!", negation), ("case", caseWord), ("do", doWord), ("done", doneWord), ("elif", elifWord),
   ("else", elseWord), ("esac", esacWord), ("fi", fiWord), ("for", forWord), ("if", ifWord),
   ("in", inWord), ("then", thenWord), ("until", untilWord), ("while", whileWord),
   ("\x7b", openBrace), ("\x7d", closeBrace)]

/-- The reserved word of a spelling. -/
def ofSpelling? (text : String) : Option Reserved :=
  spellings.lookup text

/-- How a reserved word is spelled. -/
def spelling (word : Reserved) : String :=
  ((spellings.find? fun entry => entry.2 = word).map Prod.fst).getD ""

/-- Each reserved word is found by its spelling. -/
@[simp] theorem ofSpelling?_spelling (word : Reserved) :
    ofSpelling? word.spelling = some word := by
  cases word <;> decide +kernel

/-- Whether a reserved word ends a list of commands. -/
def endsList : Reserved → Bool
  | doWord | doneWord | elifWord | elseWord | esacWord | fiWord | thenWord | closeBrace => true
  | _ => false

end Reserved

/-- A unit of a script. -/
inductive Token where
  /-- The end of the script. -/
  | endOfFile
  /-- A line end. -/
  | newline
  /-- `;` -/
  | semicolon
  /-- `&` -/
  | background
  /-- `&&` -/
  | andThen
  /-- `||` -/
  | orElse
  /-- `|` -/
  | pipe
  /-- `(` -/
  | openParen
  /-- `)` -/
  | closeParen
  /-- `;;` -/
  | endOfClause
  /-- An operator of a redirection, with the descriptor before it. -/
  | redirection
  /-- A word. -/
  | word
  /-- A reserved word. -/
  | reserved (word : Reserved)
  deriving DecidableEq, Repr

namespace Token

/-- How a token is named in complaints. -/
def shown : Token → String
  | endOfFile => "end of file"
  | newline => "newline"
  | semicolon => "\";\""
  | background => "\"&\""
  | andThen => "\"&&\""
  | orElse => "\"||\""
  | pipe => "\"|\""
  | openParen => "\"(\""
  | closeParen => "\")\""
  | endOfClause => "\";;\""
  | redirection => "redirection"
  | word => "word"
  | reserved keyword => "\"" ++ keyword.spelling ++ "\""

/-- Whether a token ends a list of commands. -/
def endsList : Token → Bool
  | endOfFile | closeParen | endOfClause => true
  | reserved keyword => keyword.endsList
  | _ => false

end Token

end Shell

end HostProvision
