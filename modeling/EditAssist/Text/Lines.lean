import EditAssist.Text.Bytes
import EditAssist.Text.Split

/-! Lines of a text. A newline ends a line; a carriage return right before it is part of the line
ending, not of the line. -/
namespace EditAssist.Text

/-- A line without its newline, and the byte offset at which it starts. -/
structure Line where
  start : Nat
  raw : List Char
  deriving DecidableEq, Repr

/-- A text without one carriage return at its end. -/
def dropReturn (t : List Char) : List Char :=
  if t.getLast? = some '\r' then t.dropLast else t

namespace Line

def text (l : Line) : List Char := dropReturn l.raw

/-- The bytes of the line, its ending excluded. -/
def extent (l : Line) : Extent := ⟨l.start, l.start + bytes l.text⟩

end Line

/-- Lay out lines one after another from a byte offset on, a newline between each two. -/
def layout : Nat → List (List Char) → List Line
  | _, [] => []
  | start, p :: ps => ⟨start, p⟩ :: layout (start + bytes p + 1) ps

/-- All lines, also an empty one behind a final newline. -/
def lines (t : List Char) : List Line := layout 0 (splitOn '\n' t)

/-- The ended lines, each without its ending, and then what stands behind the last newline unless
that is nothing. -/
def endedLines (t : List Char) : List (List Char) :=
  let ps := splitOn '\n' t
  ps.dropLast.map dropReturn ++ (ps.getLast?.toList.filter (!·.isEmpty))

example : (lines "a\r\nb".toList).map Line.extent = [⟨0, 1⟩, ⟨3, 4⟩] := by decide
example : endedLines "a\r\nb\r".toList = [['a'], ['b', '\r']] := by decide

end EditAssist.Text
