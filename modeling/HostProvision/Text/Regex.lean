/-! # Regular expressions

`Regex` is the syntax of regular expressions over characters, and `Regex.isMatch` tells whether one
describes a whole text. Matching works on positions: `Regex.reach` gives the positions at which a
match may end when it begins at one of some positions, and a text is described when its end is
reached from its beginning. -/

namespace HostProvision

namespace Text

/-- A set of characters. -/
abbrev CharSet : Type :=
  Char → Bool

/-- A place between two characters. -/
inductive Anchor where
  /-- The beginning of the text. -/
  | start
  /-- The end of the text. -/
  | stop
  /-- A place where a word begins or ends. -/
  | wordEdge
  /-- A place where no word begins or ends. -/
  | noWordEdge
  /-- A place where a word begins. -/
  | wordStart
  /-- A place where a word ends. -/
  | wordStop
  deriving DecidableEq, Repr

/-- A regular expression. -/
inductive Regex where
  /-- The empty text. -/
  | empty
  /-- One character out of a set. -/
  | one (set : CharSet)
  /-- The empty text, at a certain place. -/
  | anchor (place : Anchor)
  /-- One after the other. -/
  | seq (first second : Regex)
  /-- One or the other. -/
  | either (first second : Regex)
  /-- Any number of times. -/
  | many (regex : Regex)

namespace Regex

/-- Whether a character belongs to words. -/
def isWordChar (c : Char) : Bool :=
  c.isAlphanum || c = '_'

/-- Whether a word character stands before and after a position. -/
def wordAround (text : List Char) (position : Nat) : Bool × Bool :=
  let test := fun (c : Option Char) => (c.map isWordChar).getD false
  (if position = 0 then false else test text[position - 1]?, test text[position]?)

end Regex

namespace Anchor

/-- Whether a place in a text is of the kind asked for. -/
def holdsAt (text : List Char) (position : Nat) : Anchor → Bool
  | start => position = 0
  | stop => position = text.length
  | wordEdge => let (before, after) := Regex.wordAround text position; before != after
  | noWordEdge => let (before, after) := Regex.wordAround text position; before == after
  | wordStart => let (before, after) := Regex.wordAround text position; !before && after
  | wordStop => let (before, after) := Regex.wordAround text position; before && !after

end Anchor

namespace Regex

/-- Adds what a step leads to from some positions, a given number of times. -/
def closure (step : List Nat → List Nat) : Nat → List Nat → List Nat
  | 0, positions => positions
  | count + 1, positions => closure step count (positions ++ step positions).eraseDups

/-- Where a match may end that begins at one of some positions. -/
def reach (text : List Char) : Regex → List Nat → List Nat
  | empty, positions => positions
  | one set, positions =>
    positions.filterMap fun position =>
      match text[position]? with
      | some c => if set c then some (position + 1) else none
      | none => none
  | anchor place, positions => positions.filter fun position => place.holdsAt text position
  | seq first second, positions => second.reach text (first.reach text positions)
  | either first second, positions => first.reach text positions ++ second.reach text positions
  | many regex, positions => closure (regex.reach text) (text.length + 1) positions

/-- Whether a regular expression describes a whole text. -/
def isMatch (regex : Regex) (text : List Char) : Bool :=
  (regex.reach text [0]).contains text.length

/-- Whether some part of a regular expression is an anchor of a given kind. -/
def hasAnchor (test : Anchor → Bool) : Regex → Bool
  | empty | one _ => false
  | anchor place => test place
  | seq first second | either first second => first.hasAnchor test || second.hasAnchor test
  | many regex => regex.hasAnchor test

/-- The regular expression that describes exactly one text. -/
def ofText (text : List Char) : Regex :=
  text.foldr (fun c rest => seq (one (· = c)) rest) empty

@[simp] theorem reach_empty (text : List Char) (positions : List Nat) :
    reach text empty positions = positions :=
  rfl

@[simp] theorem reach_seq (text : List Char) (first second : Regex) (positions : List Nat) :
    reach text (seq first second) positions = second.reach text (first.reach text positions) :=
  rfl

@[simp] theorem reach_either (text : List Char) (first second : Regex) (positions : List Nat) :
    reach text (either first second) positions =
      first.reach text positions ++ second.reach text positions :=
  rfl

/-- The empty expression describes the empty text only. -/
@[simp] theorem isMatch_empty (text : List Char) : isMatch empty text = text.isEmpty := by
  cases text <;> simp [isMatch]

example : isMatch (ofText "ab".toList) "ab".toList = true := by decide
example : isMatch (ofText "ab".toList) "abc".toList = false := by decide
example : isMatch (many (either (ofText ['a']) (ofText ['b']))) "abba".toList = true := by decide

end Regex

end Text

end HostProvision
