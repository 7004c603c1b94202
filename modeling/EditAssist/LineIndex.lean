import EditAssist.Text.Bytes

/-! An index of the lines of a text: from a byte offset to its line and column, and from a line to
the bytes it covers. The index is a table of the offsets at which the lines start. A difference below
zero, a place outside the table and ends that cut no slice out of the text make a computation fail. -/
namespace EditAssist
open Text

/-- The offsets at which the lines start, in order. -/
structure LineIndex where
  starts : List Nat

namespace LineIndex

/-- Why a computation fails. -/
inductive Fault where
  | belowZero
  | outsideTable
  | noSlice
  deriving DecidableEq, Repr

/-- The difference of two numbers, where the first is not the smaller one. -/
def minus (a b : Nat) : Except Fault Nat := if b ≤ a then .ok (a - b) else .error .belowZero

/-- The part of a text between two offsets. -/
def cut (text : List Char) (start stop : Nat) : Except Fault (List Char) :=
  match (Extent.mk start stop).slice? text with
  | some part => .ok part
  | none => .error .noSlice

/-- The offsets of the newlines of a text that itself stands at an offset. -/
def newlines (offset : Nat) : List Char → List Nat
  | [] => []
  | c :: t =>
    if c = '\n' then offset :: newlines (offset + c.utf8Size) t
    else newlines (offset + c.utf8Size) t

/-- A line starts with the text, and one behind each newline. -/
def ofText (t : List Char) : LineIndex := ⟨0 :: (newlines 0 t).map (· + 1)⟩

def lineCount (index : LineIndex) : Nat := index.starts.length

/-- An entry of the table. -/
def entry (index : LineIndex) (i : Nat) : Except Fault Nat :=
  match index.starts[i]? with
  | some start => .ok start
  | none => .error .outsideTable

/-- Where the first line that starts behind an offset stands in the table; at its end if there is
none. -/
def partitionPoint (index : LineIndex) (offset : Nat) : Nat := index.starts.findIdx (offset < ·)

/-- The line of an offset is the last one that starts at or before it. -/
def tryLocate (index : LineIndex) (offset : Nat) : Except Fault (Nat × Nat) := do
  let line := max (index.partitionPoint offset) 1
  let start ← index.entry (← minus line 1)
  return (line, ← minus offset start)

/-- Where a line ends: a byte before the next one starts, or with the text. -/
def lineEnd (index : LineIndex) (text : List Char) (line : Nat) : Except Fault Nat :=
  match index.starts[line]? with
  | some next => minus next 1
  | none => .ok (bytes text)

/-- The range of a line, if there is such a line. A carriage return at its end is left out. -/
def tryRange (index : LineIndex) (text : List Char) (line : Nat) : Except Fault (Option Extent) :=
  match (minus line 1).toOption.bind (index.starts[·]?) with
  | none => return none
  | some start => do
    let stop ← index.lineEnd text line
    let part ← cut text start stop
    let stop ← if part.getLast? = some '\r' then minus stop 1 else pure stop
    return some ⟨start, stop⟩

/-- The line, counted from one, and the byte column of an offset. -/
def locate (index : LineIndex) (offset : Nat) : Nat × Nat :=
  (index.tryLocate offset).toOption.getD (1, offset)

/-- The bytes of a line, counted from one, its ending excluded. -/
def lineRange (index : LineIndex) (text : List Char) (line : Nat) : Option Extent :=
  (index.tryRange text line).toOption.join

example : (ofText "ab\ncd".toList).locate 4 = (2, 1) := by decide
example : (ofText "ab\r\ncd".toList).lineRange "ab\r\ncd".toList 1 = some ⟨0, 2⟩ := by decide
example : (ofText "ab\ncd".toList).tryRange ['a'] 1 = .error .noSlice := rfl

end LineIndex
end EditAssist
