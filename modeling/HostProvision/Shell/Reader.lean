import HostProvision.Shell.Syntax
import HostProvision.Shell.Token

/-! # Readers of scripts

A `Reader` holds what is left of a script together with what has been noticed on the way: the line,
the aliases that are being read in place of their names, the last token, and the texts that stand in
the script after the commands that use them. Each character of a script stands for one octet.
`Reading` is an action of a reader; it may end in the words that say what is malformed. -/

namespace HostProvision

namespace Shell

/-- The octet that a character of a script stands for. -/
def octetOf (c : Char) : UInt8 :=
  UInt8.ofNat c.toNat

/-- The characters of a script. -/
def charsOf (octets : Bytes) : List Char :=
  octets.map fun octet => Char.ofNat octet.toNat

/-- Characters stand for the octets that they come from. -/
@[simp] theorem map_octetOf_charsOf (octets : Bytes) :
    (charsOf octets).map octetOf = octets := by
  have single (octet : UInt8) : octetOf (Char.ofNat octet.toNat) = octet := by
    have small : octet.toNat < 0xD800 := Nat.lt_trans octet.toNat_lt (by decide)
    have valid : octet.toNat.isValidChar := .inl small
    have kept : (Char.ofNatAux octet.toNat valid).toNat = octet.toNat := rfl
    rw [octetOf, Char.ofNat, dif_pos valid, kept, UInt8.ofNat_toNat]
  simp [charsOf, Function.comp_def, single]

/-- Whether a character may begin a name. -/
def startsName (c : Char) : Bool :=
  c.isAlpha || c = '_'

/-- Whether a character may go on a name. -/
def continuesName (c : Char) : Bool :=
  c.isAlphanum || c = '_'

/-- Whether a text is a name. -/
def isName (text : String) : Bool :=
  match text.toList with
  | [] => false
  | c :: rest => startsName c && rest.all continuesName

/-- The text of an alias that is being read in place of the alias. -/
structure Layer where
  /-- The name of the alias. -/
  aliasName : String
  /-- Whether the text ends in a blank, after which another alias may stand. -/
  endsBlank : Bool
  /-- What follows the alias. -/
  after : List Char
  deriving Repr

/-- What the next token may be. -/
structure Expected where
  /-- Whether line ends before it are passed over. -/
  skipsNewlines : Bool := false
  /-- Whether it may be a reserved word. -/
  reserved : Bool := false
  /-- Whether it may be an alias. -/
  aliased : Bool := false
  /-- Whether it is the line that ends a text, in which nothing is expanded. -/
  delimiter : Bool := false
  deriving DecidableEq, Repr

/-- What a redirection operator asks for. -/
inductive Operator where
  /-- A file. -/
  | file (use : FileUse)
  /-- Another descriptor. -/
  | duplicate
  /-- A text after the command, whose lines may lose the tabs at their beginning. -/
  | document (stripsTabs : Bool)
  deriving DecidableEq, Repr

/-- The line that ends a text. -/
structure Delimiter where
  /-- The line. -/
  line : List Char
  /-- Whether tabs at the beginning of lines do not count. -/
  stripsTabs : Bool
  deriving Repr

/-- A text that is still to be read. -/
structure Awaited where
  /-- Its place among all texts. -/
  index : Nat
  /-- The line that ends it. -/
  delimiter : Delimiter
  /-- Whether it is expanded. -/
  isExpanded : Bool
  deriving Repr

/-- A reader of a script. -/
structure Reader where
  /-- The characters that are left. -/
  text : List Char
  /-- The aliases whose texts are being read, the innermost first. -/
  layers : List Layer := []
  /-- The aliases whose texts have just ended. -/
  ended : List String := []
  /-- The current line. -/
  line : Nat := 1
  /-- Whether the next character is the first one of its line. -/
  startsLine : Bool := true
  /-- The known aliases. -/
  aliases : List (String × List Char) := []
  /-- Whether lines are shown when they are first looked at. -/
  isEchoing : Bool := false
  /-- The lines to be shown, last first. -/
  echoed : List (List Char) := []
  /-- What the next token may be. -/
  expected : Expected := {}
  /-- The last token. -/
  token : Token := .endOfFile
  /-- Whether the last token is to be read again. -/
  isPushedBack : Bool := false
  /-- The last word. -/
  word : Word := []
  /-- Whether the last word has quotes. -/
  isQuoted : Bool := false
  /-- The descriptor and the operator of the last redirection. -/
  redirection : Nat × Operator := (0, .duplicate)
  /-- The texts that are still to be read. -/
  awaited : List Awaited := []
  /-- The texts that have been read, by their places. -/
  documents : List (Nat × Word) := []
  /-- The number of texts so far. -/
  documentCount : Nat := 0
  /-- The end of the text that is being read. -/
  delimiter : Option Delimiter := none
  /-- Whether that end has been reached. -/
  isPastDelimiter : Bool := false

/-- An action of a reader. It may end in words that say what is malformed. -/
abbrev Reading (α : Type) : Type :=
  ExceptT String (StateM Reader) α

namespace Reader

/-- Leaves the texts of aliases that have been read to their end. -/
def leaveLayers (reader : Reader) : List Layer → Reader
  | [] => { reader with layers := [] }
  | layer :: layers =>
    if reader.text.isEmpty then
      leaveLayers
        { reader with
          text := layer.after
          ended := layer.aliasName :: reader.ended
          expected :=
            { reader.expected with aliased := reader.expected.aliased || layer.endsBlank } }
        layers
    else { reader with layers := layer :: layers }

/-- Notes the line that begins here, if lines are shown. -/
def echo (reader : Reader) : Reader :=
  if reader.startsLine && reader.layers.isEmpty && !reader.text.isEmpty then
    let line := reader.text.takeWhile (· ≠ '\n')
    let line := if line.length < reader.text.length then line ++ ['\n'] else line
    { reader with
      startsLine := false
      echoed := if reader.isEchoing then line :: reader.echoed else reader.echoed }
  else reader

/-- Takes the next character. -/
def advance (reader : Reader) : Option Char × Reader :=
  if reader.isPastDelimiter then (none, reader)
  else
    let reader := (leaveLayers { reader with ended := [] } reader.layers).echo
    match reader.text with
    | [] => (none, reader)
    | c :: rest =>
      (some c, { reader with
        text := rest, startsLine := reader.startsLine || (c = '\n' && reader.layers.isEmpty) })

/-- Gives the last character back. -/
def retreat (reader : Reader) (c : Char) : Reader :=
  { reader with
    text := c :: reader.text
    startsLine := reader.startsLine && !(c = '\n' && reader.layers.isEmpty) }

/-- Whether an alias may be read in place of its name: not inside its own text. -/
def alias? (reader : Reader) (name : String) : Option (List Char) :=
  if reader.ended.contains name || reader.layers.any (·.aliasName = name) then none
  else reader.aliases.lookup name

/-- Reads the text of an alias next. -/
def enterAlias (reader : Reader) (name : String) (text : List Char) : Reader :=
  if text.isEmpty then reader
  else
    let endsBlank := text.getLast?.any fun c => c = ' ' || c = '\t'
    { reader with text, layers := ⟨name, endsBlank, reader.text⟩ :: reader.layers }

end Reader

namespace Reading

/-- Takes the next character. -/
def next : Reading (Option Char) :=
  modifyGet Reader.advance

/-- Gives a character back. -/
def back : Option Char → Reading Unit
  | some c => modify (·.retreat c)
  | none => return

/-- Goes on to the next line. -/
def countLine : Reading Unit :=
  modify fun reader => { reader with line := reader.line + 1 }

/-- Passes over line ends that a backslash quotes. -/
def skipJoints : Nat → Reading Unit
  | 0 => return
  | fuel + 1 => do
    match (← get).text with
    | '\\' :: '\n' :: _ =>
      discard next
      discard next
      countLine
      skipJoints fuel
    | _ => return

/-- How many quoted line ends may follow each other. -/
def maxJoints : Nat := 10000

/-- Takes the next character after line ends that a backslash quotes. -/
def nextJoined : Reading (Option Char) := do
  modify fun reader =>
    if reader.isPastDelimiter then reader else reader.leaveLayers reader.layers
  unless (← get).isPastDelimiter do skipJoints maxJoints
  next

/-- What was last read is malformed. -/
def malformed {α : Type} (words : String) : Reading α :=
  throw words

/-- The last token cannot stand where it does. -/
def unexpected {α : Type} : Reading α := do
  malformed ((← get).token.shown ++ " unexpected")

/-- Another token had to stand in the place of the last one. -/
def missing {α : Type} (token : Token) : Reading α := do
  malformed ((← get).token.shown ++ " unexpected (expecting " ++ token.shown ++ ")")

end Reading

end Shell

end HostProvision
