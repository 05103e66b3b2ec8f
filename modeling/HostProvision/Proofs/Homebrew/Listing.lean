import HostProvision.Homebrew
import Mathlib.Data.List.Basic

/-! # Listings of formulas

What the listing of installed formulas says. A listing is read piece by piece, where a piece is what
stands between two line feeds.

* **A listing lists a name**, `Homebrew.Lists`, if one of its pieces is that name between blank
  ends; `Homebrew.mem_listedNames_iff` says that these are the names that are read.
* **Printing and reading are inverse**, `Homebrew.listedNames_printed`, for proper names, which are
  those that have no line feed and no blank ends. -/

namespace HostProvision

namespace Text

/-- Blank characters at the end of a text do not matter after trimming. -/
theorem trim_append_singleton_of_blank (chars : List Char) {c : Char} (blank : isBlank c = true) :
    trim (chars ++ [c]) = trim chars := by
  rw [trim, trimStart, List.dropWhile_append]
  by_cases allBlank : (chars.dropWhile isBlank).isEmpty
  · -- Nothing is left of a blank text, with or without the last character.
    have none : chars.dropWhile isBlank = [] := List.isEmpty_iff.mp allBlank
    simp [blank, trim, trimStart, none]
  · rw [if_neg allBlank, trimEnd_append_singleton_of_blank _ blank]
    rfl

/-- The carriage return of a line end is blank, so trimming takes it off anyway. -/
theorem trim_dropCarriageReturn (line : List Char) :
    trim (dropCarriageReturn line) = trim line := by
  rw [dropCarriageReturn]
  split
  · next last =>
    obtain ⟨before, rfl⟩ := List.getLast?_eq_some_iff.mp last
    rw [List.dropLast_concat, trim_append_singleton_of_blank before (by decide)]
  · rfl

end Text

namespace Homebrew

/-- The pieces that are left of lines are those that are left of all pieces: a line differs from its
piece in a carriage return at most, and the pieces that are no lines are empty. -/
theorem filter_map_trim_linesOfPieces (pieces : List (List Char)) :
    ((Text.linesOfPieces pieces).map Text.trim).filter (!·.isEmpty) =
      (pieces.map Text.trim).filter (!·.isEmpty) := by
  fun_induction Text.linesOfPieces pieces with
  | case1 => rfl
  | case2 last empty => simp [List.isEmpty_iff.mp empty]
  | case3 last solid => rfl
  | case4 piece next rest ih =>
    rw [List.map_cons, List.map_cons, Text.trim_dropCarriageReturn, List.filter_cons, ih,
      List.filter_cons]

/-- **The names in a listing** are its pieces without blank ends, except for blank pieces. -/
theorem listedNames_eq (listing : String) :
    listedNames listing =
      ((Text.pieces listing.toList).map Text.trim |>.filter (!·.isEmpty)).map String.ofList := by
  rw [listedNames, Text.lines, filter_map_trim_linesOfPieces]

/-- A listing lists a name if one of its pieces is the name between blank ends. -/
def Lists (listing name : String) : Prop :=
  name ≠ "" ∧ ∃ piece ∈ Text.pieces listing.toList, Text.trim piece = name.toList

/-- **The names that are read are those that are listed.** -/
theorem mem_listedNames_iff {listing name : String} :
    name ∈ listedNames listing ↔ Lists listing name := by
  simp only [listedNames_eq, List.mem_map, List.mem_filter, Lists]
  constructor
  · rintro ⟨_, ⟨⟨piece, mem, rfl⟩, solid⟩, rfl⟩
    refine ⟨?_, piece, mem, (String.toList_ofList).symm⟩
    intro empty
    rw [← String.toList_inj, String.toList_ofList] at empty
    simp [empty] at solid
  · rintro ⟨solid, piece, mem, same⟩
    refine ⟨name.toList, ⟨⟨piece, mem, same⟩, ?_⟩, String.ofList_toList⟩
    simpa [List.isEmpty_iff] using solid

/-! ## Proper names -/

/-- A name that a line can hold: it is not empty, and has no line feed and no blank ends. -/
structure ProperName (name : String) : Prop where
  /-- The name is not empty. -/
  solid : name ≠ ""
  /-- The name is on one line. -/
  oneLine : '\n' ∉ name.toList
  /-- The name has no blank ends. -/
  trimmed : Text.trim name.toList = name.toList

instance (name : String) : Decidable (ProperName name) :=
  decidable_of_iff (name ≠ "" ∧ '\n' ∉ name.toList ∧ Text.trim name.toList = name.toList)
    ⟨fun ⟨solid, oneLine, trimmed⟩ => ⟨solid, oneLine, trimmed⟩,
      fun ⟨solid, oneLine, trimmed⟩ => ⟨solid, oneLine, trimmed⟩⟩

/-- The listing of some names: each on a line of its own. -/
def printed (names : List String) : String :=
  String.join (names.map (· ++ "\n"))

@[simp] theorem printed_nil : printed [] = "" := rfl

/-- The pieces of a listing are the names on its lines, and an empty one behind the last line
feed. -/
theorem pieces_printed {names : List String} (oneLine : ∀ name ∈ names, '\n' ∉ name.toList) :
    Text.pieces (printed names).toList = names.map String.toList ++ [[]] := by
  induction names with
  | nil => exact Text.pieces_nil
  | cons name names ih =>
    obtain ⟨first, others⟩ := List.forall_mem_cons.mp oneLine
    have rest : (printed (name :: names)).toList =
        name.toList ++ '\n' :: (printed names).toList := by
      simp [printed, String.toList_join]
    rw [Text.pieces, rest, List.splitOn_append_cons_self_of_not_mem first, ← Text.pieces,
      ih others]
    rfl

/-- **A listing of proper names is read as it was printed.** -/
theorem listedNames_printed {names : List String} (proper : ∀ name ∈ names, ProperName name) :
    listedNames (printed names) = names := by
  have trimmed : (names.map String.toList).map Text.trim = names.map String.toList := by
    rw [List.map_map]
    exact List.map_congr_left fun name mem => (proper name mem).trimmed
  have solid : (names.map String.toList).filter (!·.isEmpty) = names.map String.toList := by
    rw [List.filter_eq_self]
    simpa [List.isEmpty_iff] using fun name mem => (proper name mem).solid
  rw [listedNames_eq, pieces_printed fun name mem => (proper name mem).oneLine, List.map_append,
    trimmed, List.filter_append, solid]
  simp

end Homebrew

end HostProvision
