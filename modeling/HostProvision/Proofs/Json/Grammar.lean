import HostProvision.Json.Value
import Mathlib.Data.List.Basic

/-! # The grammar of JSON texts

Which texts spell a value, said without a word about how a text is read.

* `SpellsNumber` composes a number of a sign, a whole part, a fraction and an exponent.
* `Element` is one element of a spelled string, and `Element.join?` the text that some elements stand
  for: escapes by number are UTF-16 units, of which two surrogates in the right order are one
  character.
* `Token.Spells` says which characters spell a token, and `Spelling` which characters spell tokens
  one after another, with insignificant whitespace anywhere between them.
* **A text spells a value**, `Value.Spells`, if it spells the tokens of the value in order. -/

namespace HostProvision

namespace Json

/-! ## Numbers -/

/-- Nothing but digits. -/
abbrev AllDigits (chars : List Char) : Prop :=
  ∀ c ∈ chars, c.isDigit = true

/-- The whole part of a number, which has no leading zero. -/
inductive WholePart : List Char → Prop where
  /-- Zero. -/
  | zero : WholePart ['0']
  /-- Digits of which the first is not zero. -/
  | other {first : Char} {rest : List Char} (digit : first.isDigit = true) (nonzero : first ≠ '0')
      (digits : AllDigits rest) : WholePart (first :: rest)

/-- The fraction of a number, if it has one. -/
inductive FractionPart : List Char → Prop where
  /-- No fraction. -/
  | none : FractionPart []
  /-- A point and digits. -/
  | some {digits : List Char} (solid : digits ≠ []) (digit : AllDigits digits) :
      FractionPart ('.' :: digits)

/-- The sign of an exponent, if it has one. -/
inductive ExponentSign : List Char → Prop where
  /-- No sign. -/
  | none : ExponentSign []
  /-- Plus. -/
  | plus : ExponentSign ['+']
  /-- Minus. -/
  | minus : ExponentSign ['-']

/-- The exponent of a number, if it has one. -/
inductive ExponentPart : List Char → Prop where
  /-- No exponent. -/
  | none : ExponentPart []
  /-- The letter `e` in either case, perhaps a sign, and digits. -/
  | some {mark : Char} {sign digits : List Char} (marked : mark = 'e' ∨ mark = 'E')
      (signed : ExponentSign sign) (solid : digits ≠ []) (digit : AllDigits digits) :
      ExponentPart (mark :: (sign ++ digits))

/-- What follows the whole part of a number. -/
def Decimals (chars : List Char) : Prop :=
  ∃ fraction exponent, chars = fraction ++ exponent ∧ FractionPart fraction ∧
    ExponentPart exponent

/-- What follows the sign of a number. -/
def Unsigned (chars : List Char) : Prop :=
  ∃ whole decimals, chars = whole ++ decimals ∧ WholePart whole ∧ Decimals decimals

/-- Characters spell a number. -/
def SpellsNumber (lexeme : List Char) : Prop :=
  Unsigned lexeme ∨ ∃ unsigned, lexeme = '-' :: unsigned ∧ Unsigned unsigned

/-! ## Strings -/

/-- An element of a spelled string. -/
inductive Element where
  /-- A character that is written as itself or by a short escape. -/
  | plain (c : Char)
  /-- A UTF-16 unit that is written by number. -/
  | unit (number : Nat)

/-- The number that hexadecimal digits stand for, behind others that stand for some number. -/
def hexNumber? : Nat → List Char → Option Nat
  | number, [] => some number
  | number, c :: rest => (hexDigit? c).bind fun digit => hexNumber? (number * 16 + digit) rest

/-- Which characters spell an element. -/
inductive Element.Spells : Element → List Char → Prop where
  /-- A character as itself, unless it is a control character, a quote or a backslash. -/
  | itself {c : Char} (printable : 0x20 ≤ c.toNat) (quote : c ≠ '"') (backslash : c ≠ '\\') :
      Spells (.plain c) [c]
  /-- A backslash and the name of a character. -/
  | short {name c : Char} (named : shortEscape? name = some c) : Spells (.plain c) ['\\', name]
  /-- A backslash, the letter `u` and four hexadecimal digits. -/
  | numbered {digits : List Char} {number : Nat} (four : digits.length = 4)
      (value : hexNumber? 0 digits = some number) :
      Spells (.unit number) ('\\' :: 'u' :: digits)

/-- Which characters spell some elements. -/
inductive Elements : List Element → List Char → Prop where
  /-- No elements. -/
  | nil : Elements [] []
  /-- One more element. -/
  | cons {element : Element} {spelled : List Char} {elements : List Element} {chars : List Char}
      (first : element.Spells spelled) (others : Elements elements chars) :
      Elements (element :: elements) (spelled ++ chars)

/-- A unit that begins a pair. -/
def IsLeading (number : Nat) : Prop :=
  0xD800 ≤ number ∧ number < 0xDC00

/-- A unit that ends a pair. -/
def IsTrailing (number : Nat) : Prop :=
  0xDC00 ≤ number ∧ number < 0xE000

instance (number : Nat) : Decidable (IsLeading number) :=
  inferInstanceAs (Decidable (_ ∧ _))

instance (number : Nat) : Decidable (IsTrailing number) :=
  inferInstanceAs (Decidable (_ ∧ _))

/-- The character of a pair. -/
def pairChar (leading trailing : Nat) : Char :=
  Char.ofNat (0x10000 + (leading - 0xD800) * 0x400 + (trailing - 0xDC00))

/-- The characters that elements stand for, unless a surrogate among them has no partner. -/
def Element.join? : List Element → Option (List Char)
  | [] => some []
  | .plain c :: rest => (join? rest).map (c :: ·)
  | .unit number :: rest =>
    if IsLeading number then
      match rest with
      | .unit next :: rest =>
        if IsTrailing next then (join? rest).map (pairChar number next :: ·) else none
      | _ => none
    else if IsTrailing number then none
    else (join? rest).map (Char.ofNat number :: ·)

/-- A unit that begins no pair stands for itself, unless it would end one. -/
theorem Element.join?_unit_of_not_isLeading {number : Nat} (alone : ¬ IsLeading number)
    (rest : List Element) :
    join? (.unit number :: rest) =
      if IsTrailing number then none else (join? rest).map (Char.ofNat number :: ·) := by
  rw [join?.eq_def]
  simp only [if_neg alone]

/-- The text that elements stand for. -/
def Element.text? (elements : List Element) : Option String :=
  (join? elements).map String.ofList

/-! ## Tokens -/

/-- Which characters spell a token. Those of a number are what the token keeps; a string may be
spelled in several ways; any other token has a single spelling. -/
def Token.Spells : Token → List Char → Prop
  | .number lexeme, chars => chars = lexeme ∧ SpellsNumber lexeme
  | .text value, chars => ∃ elements body, Elements elements body ∧
      chars = '"' :: (body ++ ['"']) ∧ value = Element.text? elements
  | token, chars => chars = token.chars

/-- Insignificant whitespace. -/
abbrev Blanks (chars : List Char) : Prop :=
  ∀ c ∈ chars, Scan.isSpace c = true

/-- Which characters spell tokens one after another. -/
inductive Spelling : List Token → List Char → Prop where
  /-- No tokens. -/
  | nil {blanks : List Char} (blank : Blanks blanks) : Spelling [] blanks
  /-- One more token, after insignificant whitespace. -/
  | cons {blanks spelled rest : List Char} {token : Token} {tokens : List Token}
      (blank : Blanks blanks) (first : token.Spells spelled) (others : Spelling tokens rest) :
      Spelling (token :: tokens) (blanks ++ (spelled ++ rest))

/-- **A text spells a value** if it spells its tokens in order. -/
def Value.Spells (value : Value) (text : String) : Prop :=
  Spelling value.tokens text.toList

/-! ### Parts of a spelling -/

namespace Spelling

variable {tokens first second : List Token} {chars more : List Char}

/-- Whitespace at the front of a spelling does not matter. -/
theorem blanks_append {blanks : List Char} (blank : Blanks blanks) (h : Spelling tokens chars) :
    Spelling tokens (blanks ++ chars) := by
  have both {others : List Char} (blank' : Blanks others) : Blanks (blanks ++ others) :=
    List.forall_mem_append.mpr ⟨blank, blank'⟩
  cases h with
  | nil blank' => exact .nil (both blank')
  | cons blank' spelled others =>
    rw [← List.append_assoc]
    exact .cons (both blank') spelled others

/-- Two spellings one after another spell both. -/
theorem append (h : Spelling first chars) (h' : Spelling second more) :
    Spelling (first ++ second) (chars ++ more) := by
  induction h with
  | nil blank => exact blanks_append blank h'
  | cons blank spelled _ ih =>
    rw [List.append_assoc, List.append_assoc]
    exact .cons blank spelled ih

/-- **The spelling of two parts** is a spelling of the first and one of the second. -/
theorem append_iff : Spelling (first ++ second) chars ↔
    ∃ before after, chars = before ++ after ∧ Spelling first before ∧ Spelling second after := by
  constructor
  · intro h
    induction first generalizing chars with
    | nil => exact ⟨[], chars, rfl, .nil (List.forall_mem_nil _), h⟩
    | cons token first ih =>
      cases h with
      | cons blank spelled others =>
        obtain ⟨before, after, rfl, begun, ended⟩ := ih others
        refine ⟨_, after, ?_, .cons blank spelled begun, ended⟩
        simp only [List.append_assoc]
  · rintro ⟨before, after, rfl, begun, ended⟩
    exact begun.append ended

end Spelling

end Json

end HostProvision
