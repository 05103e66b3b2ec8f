/-! # Lines of a text

`Text.pieces` cuts a text at every line feed and keeps every piece. `Text.lines` are the lines that
a reader sees: a line feed at the very end opens no further line, and a carriage return right before
a line feed belongs to the line end. -/

namespace HostProvision

namespace Text

/-- The parts of a text between its line feeds, empty ones included. -/
def pieces (chars : List Char) : List (List Char) :=
  chars.splitOn '\n'

/-- A terminated line without the carriage return that may stand before its line feed. -/
def dropCarriageReturn (line : List Char) : List Char :=
  match line.getLast? with
  | some '\r' => line.dropLast
  | _ => line

/-- The lines among the pieces of a text: all but the last are terminated, and the last counts only
if it holds something. -/
def linesOfPieces : List (List Char) → List (List Char)
  | [] => []
  | [last] => if last.isEmpty then [] else [last]
  | piece :: next :: rest => dropCarriageReturn piece :: linesOfPieces (next :: rest)

/-- The lines of a text. -/
def lines (chars : List Char) : List (List Char) :=
  linesOfPieces (pieces chars)

@[simp] theorem pieces_nil : pieces [] = [[]] := by
  simp [pieces]

@[simp] theorem lines_nil : lines [] = [] := by
  simp [lines, linesOfPieces]

example : lines "a\r\nb\n\nc".toList = ["a".toList, "b".toList, [], "c".toList] := by decide +kernel
example : lines "a\n".toList = ["a".toList] := by decide +kernel
example : lines "a\r".toList = ["a\r".toList] := by decide +kernel

end Text

end HostProvision
