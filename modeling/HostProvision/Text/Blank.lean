/-! # Blank characters, trimming and words

A character is **blank** when it has the Unicode property White_Space. `trim` removes the blank
characters at both ends of a text, and `firstWord?` is the first maximal run of characters that are
not blank. Texts are handled as lists of characters; `trimText` is the same on `String`. -/

namespace HostProvision

namespace Text

/-- Whether a character has the Unicode property White_Space. -/
def isBlank (c : Char) : Bool :=
  let n := c.toNat
  (9 ≤ n && n ≤ 13) || n == 0x20 || n == 0x85 || n == 0xA0 || n == 0x1680 ||
    (0x2000 ≤ n && n ≤ 0x200A) || n == 0x2028 || n == 0x2029 || n == 0x202F || n == 0x205F ||
    n == 0x3000

/-- The characters of a text after its leading blank ones. -/
def trimStart (chars : List Char) : List Char :=
  chars.dropWhile isBlank

/-- The characters of a text before its trailing blank ones. -/
def trimEnd (chars : List Char) : List Char :=
  (chars.reverse.dropWhile isBlank).reverse

/-- The characters of a text between its blank ends. -/
def trim (chars : List Char) : List Char :=
  trimEnd (trimStart chars)

/-- The text between the blank ends of a text. -/
def trimText (text : String) : String :=
  String.ofList (trim text.toList)

/-- Whether a text consists of blank characters only. -/
def isBlankText (text : String) : Bool :=
  text.toList.all isBlank

/-- The first word of a text: its first maximal run of characters that are not blank. -/
def firstWord? (chars : List Char) : Option (List Char) :=
  match (trimStart chars).takeWhile (!isBlank ·) with
  | [] => none
  | word => some word

@[simp] theorem trimStart_nil : trimStart [] = [] :=
  rfl

@[simp] theorem trimEnd_nil : trimEnd [] = [] :=
  rfl

@[simp] theorem trim_nil : trim [] = [] :=
  rfl

/-- A character that is not blank ends the trimming. -/
theorem trimStart_cons_of_not_blank {c : Char} (rest : List Char) (solid : isBlank c = false) :
    trimStart (c :: rest) = c :: rest := by
  simp [trimStart, solid]

/-- A trailing blank character is dropped. -/
theorem trimEnd_append_singleton_of_blank (chars : List Char) {c : Char}
    (blank : isBlank c = true) : trimEnd (chars ++ [c]) = trimEnd chars := by
  simp [trimEnd, blank]

example : trimText " \tcmake\u3000\n" = "cmake" := by decide +kernel
example : firstWord? "  gcc (5.1) < 5.2".toList = some "gcc".toList := by decide +kernel
example : firstWord? " \u2003 ".toList = none := by decide +kernel

end Text

end HostProvision
