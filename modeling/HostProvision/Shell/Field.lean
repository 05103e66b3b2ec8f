import HostProvision.Shell.Pattern
import HostProvision.Shell.Variable

/-! # Fields

What the parts of a word expand to are `Piece`s: octets that stay together, regions that are split,
and marks where quotes stood. Only regions are split, at separators, where blanks among the
separators count as one; a region in which arguments stand apart is split between the arguments
alone. A mark makes a field even out of nothing. `State.matchFiles` finds the files that a field
matches as a pattern. -/

namespace HostProvision

namespace Shell

/-- Marks octets as quoted or not. -/
def marked (octets : Bytes) (isQuoted : Bool) : List Marked :=
  octets.map fun octet => (octet, isQuoted)

/-- The octets of a field. -/
def plain (field : List Marked) : Bytes :=
  field.map Prod.fst

/-- Marks do not change octets. -/
@[simp] theorem plain_marked (octets : Bytes) (isQuoted : Bool) :
    plain (marked octets isQuoted) = octets := by
  simp [plain, marked, Function.comp_def]

/-- What a part of a word expands to. -/
inductive Piece where
  /-- A quote. -/
  | mark
  /-- Octets that stay together. -/
  | literal (octets : List Marked)
  /-- Octets that are split at separators, or between arguments alone, where a zero stands. -/
  | region (isApart : Bool) (octets : List Marked)
  deriving DecidableEq, Repr

/-- The octets of a piece. -/
def Piece.octets : Piece → List Marked
  | mark => []
  | literal octets | region _ octets => octets

/-- A word that is being split into fields. -/
structure Splitting where
  /-- The complete fields, last first. -/
  complete : List (List Marked) := []
  /-- The octets of the field under way, last first. -/
  current : List Marked := []
  /-- Whether the field under way has a mark. -/
  isMarked : Bool := false
  /-- Whether a blank in the current region has just ended a field. -/
  isAfterBlank : Bool := false
  /-- Whether the last region had arguments that stand apart. -/
  isApart : Bool := false

namespace Splitting

/-- Whether nothing belongs to the field under way. -/
def isEmpty (splitting : Splitting) : Bool :=
  splitting.current.isEmpty && !splitting.isMarked

/-- Ends the field under way. -/
def close (splitting : Splitting) : Splitting :=
  { splitting with
    complete := splitting.current.reverse :: splitting.complete, current := [], isMarked := false }

/-- Adds an octet of a region, given the separators there and whether blanks count as one. -/
def addOctet (separators : Bytes) (joinsBlanks : Bool) (splitting : Splitting) (octet : Marked) :
    Splitting :=
  let separates := octet.1 = 0 || separators.contains octet.1
  let isBlank := separates && (octet.1 = 0 || State.blanks.contains octet.1)
  if splitting.isAfterBlank && separates then
    -- Blanks count as one, also together with one other separator.
    { splitting with current := [], isAfterBlank := isBlank }
  else if !separates then
    { splitting with current := octet :: splitting.current, isAfterBlank := false }
  else
    let isAfterBlank := joinsBlanks && isBlank
    if splitting.isEmpty && isAfterBlank then { splitting with isAfterBlank := false }
    else { splitting.close with isAfterBlank }

/-- Adds a piece. -/
def add (separators : Bytes) (splitting : Splitting) : Piece → Splitting
  | .mark => { splitting with isMarked := true }
  | .literal octets => { splitting with current := octets.reverse ++ splitting.current }
  | .region isApart octets =>
    let joinsBlanks := !(isApart || splitting.isApart)
    octets.foldl (addOctet (if isApart then [] else separators) joinsBlanks)
      { splitting with isApart, isAfterBlank := false }

/-- The fields when nothing more is added. -/
def fields (splitting : Splitting) : List (List Marked) :=
  let closed := if splitting.isApart || !splitting.isEmpty then splitting.close else splitting
  closed.complete.reverse

end Splitting

/-- The fields that pieces are split into. -/
def splitFields (separators : Bytes) (pieces : List Piece) : List (List Marked) :=
  (pieces.foldl (Splitting.add separators) {}).fields

/-- No pieces make no fields. -/
@[simp] theorem splitFields_nil (separators : Bytes) : splitFields separators [] = [] :=
  rfl

/-- A quote makes a field. -/
@[simp] theorem splitFields_mark (separators : Bytes) :
    splitFields separators [.mark] = [[]] :=
  rfl

/-! ### Files that match -/

namespace State

/-- Whether a component of a pattern stands for more than one name. -/
def isSpecial (component : List Marked) : Bool :=
  (Pattern.ofField component).isSpecial

/-- The paths that paths go on with at a component of a pattern. -/
def matchComponent (state : State) (paths : List Bytes) (component : List Marked) : List Bytes :=
  if isSpecial component then
    let pattern := Pattern.ofField component
    let first := (Pattern.takeOctet component).map Prod.fst
    let admitsHidden := first = some Path.dot
    paths.flatMap fun path =>
      match state.find (if path = [] then [Path.dot] else path) with
      | .ok (.present location .directory) =>
        let names := [Path.dot] :: [Path.dot, Path.dot] :: state.shared.tree.names location
        let found := names.filter fun name =>
          (admitsHidden || name.head? ≠ some Path.dot) && pattern.isMatch name
        found.map (path ++ ·)
      | _ => []
  else paths.map (· ++ plain component)

/-- The paths that the components of a pattern lead to, with a slash between them. -/
def matchComponents (state : State) : List Bytes → List (List Marked) → List Bytes
  | paths, [] => paths
  | paths, [last] => state.matchComponent paths last
  | paths, component :: rest =>
    state.matchComponents ((state.matchComponent paths component).map (· ++ [Path.slash])) rest

/-- The texts that a field stands for: the paths of the files that it matches, in order, or else the
field itself. -/
def matchFiles (state : State) (field : List Marked) : List Bytes :=
  let components := field.splitOnP fun (octet, _) => octet = Path.slash
  if state.has .noPatterns || !components.any isSpecial then [plain field]
  else
    let isThere (path : Bytes) : Bool :=
      match state.shared.tree.findItself state.directory path with
      | .ok (.present ..) => true
      | _ => false
    match (state.matchComponents [[]] components).filter isThere with
    | [] => [plain field]
    | paths => paths.mergeSort Host.FileTree.precedes

end State

end Shell

end HostProvision
