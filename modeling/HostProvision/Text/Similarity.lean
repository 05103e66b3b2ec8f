/-! # How similar two words are

The **Jaro similarity** of two words is the mean of three shares: of the letters of either word that
are found in the other one near the same place, and of those found that stand in the same order. It
is compared with a threshold as an exact fraction. -/

namespace HostProvision

namespace Text

namespace Similarity

/-- The letters of a word with whether each has been found. -/
abbrev Found : Type :=
  List (Char × Bool)

/-- Marks the first letter at one of some positions that equals a given one and is not marked. -/
def markNear (letter : Char) (low high : Nat) : Nat → Found → Option Found
  | _, [] => none
  | position, (c, isFound) :: rest =>
    if low ≤ position ∧ position < high ∧ c = letter ∧ !isFound then some ((c, true) :: rest)
    else (markNear letter low high (position + 1) rest).map ((c, isFound) :: ·)

/-- Finds the letters of one word, from a position on, in the other one. -/
def findAll (range : Nat) : Nat → List Char → Found → List Char × Found
  | _, [], other => ([], other)
  | position, letter :: rest, other =>
    match markNear letter (position - range) (position + range + 1) 0 other with
    | some other =>
      let (letters, other) := findAll range (position + 1) rest other
      (letter :: letters, other)
    | none => findAll range (position + 1) rest other

/-- A similarity as a fraction, with its denominator. -/
structure Score where
  /-- The numerator. -/
  part : Nat
  /-- The denominator. -/
  whole : Nat
  deriving DecidableEq, Repr

namespace Score

/-- Whether one similarity is smaller than another. -/
def less (first second : Score) : Bool :=
  first.part * second.whole < second.part * first.whole

/-- Whether words of this similarity are taken for misspellings of each other. -/
def isClose (score : Score) : Bool :=
  7 * score.whole ≤ 10 * score.part && 0 < score.part

end Score

/-- The similarity of two words. -/
def jaro (first second : List Char) : Score :=
  let range := max first.length second.length / 2 - 1
  let (letters, marked) := findAll range 0 first (second.map fun c => (c, false))
  let others := (marked.filter Prod.snd).map Prod.fst
  let count := letters.length
  let swapped := ((letters.zip others).filter fun (a, b) => a ≠ b).length / 2
  let a := first.length
  let b := second.length
  ⟨count * count * b + count * count * a + (count - swapped) * a * b, 3 * a * b * count⟩

/-- Puts a candidate behind those that are not more similar. -/
def insert {α : Type} (score : Score) (candidate : α) : List (Score × α) → List (Score × α)
  | [] => [(score, candidate)]
  | (other, item) :: rest =>
    if score.less other then (score, candidate) :: (other, item) :: rest
    else (other, item) :: insert score candidate rest

/-- The candidates that a word may be a misspelling of, the most similar one last. -/
def closeTo {α : Type} (word : String) (spelling : α → String) (candidates : List α) : List α :=
  ((candidates.filterMap fun candidate =>
    let score := jaro word.toList (spelling candidate).toList
    if score.isClose then some (score, candidate) else none).foldl
      (fun sorted (score, candidate) => insert score candidate sorted) []).map Prod.snd

/-- A word without letters in common is not close. -/
@[simp] theorem jaro_nil (second : List Char) : jaro [] second = ⟨0, 0⟩ := by
  simp [jaro, findAll]

example : closeTo "lst" id ["list", "ls", "tree"] = ["ls", "list"] := by decide +kernel
example : closeTo "instal" id ["install", "list", "uninstall", "run"] =
    ["list", "uninstall", "install"] := by decide +kernel

end Similarity

end Text

end HostProvision
