import EditAssist.Text.Split

/-! Sets of code points. A set is kept as closed ranges in increasing order that neither meet nor
overlap, so two sets with the same members are equal and membership is a binary search. Tables of
the character database are written as text: `41-5A` is a range of hexadecimal code points, `AA` a
single one, and `100-12E/2` every second code point of a range. -/
namespace EditAssist.Unicode

structure CodeSet where
  ranges : Array (Nat × Nat)
  deriving DecidableEq, Repr

namespace CodeSet

/-- The largest code point. -/
def maxCode : Nat := 0x10FFFF

def empty : CodeSet := ⟨#[]⟩

def isEmpty (s : CodeSet) : Bool := s.ranges.isEmpty

/-- Join a range to the ranges before it, the latest first; ranges come by increasing start. -/
def absorb (done : List (Nat × Nat)) (r : Nat × Nat) : List (Nat × Nat) :=
  match done with
  | [] => [r]
  | (a, b) :: rest => if r.1 ≤ b + 1 then (a, max b r.2) :: rest else r :: (a, b) :: rest

/-- The set of all members of the given ranges, in whatever order they come. -/
def ofRanges (rs : List (Nat × Nat)) : CodeSet :=
  let sorted := rs.mergeSort fun x y => x.1 ≤ y.1
  ⟨(sorted.foldl absorb []).reverse.toArray⟩

def range (lo hi : Nat) : CodeSet := ⟨#[(lo, hi)]⟩

def singleton (n : Nat) : CodeSet := range n n

def all : CodeSet := range 0 maxCode

/-- Search the ranges with index from `lo` up to `hi`. -/
def search (rs : Array (Nat × Nat)) (n lo hi : Nat) : Bool :=
  if lo < hi then
    let mid := (lo + hi) / 2
    match rs[mid]? with
    | none => false
    | some (a, b) =>
      if n < a then search rs n lo mid
      else if b < n then search rs n (mid + 1) hi
      else true
  else false
termination_by hi - lo

def contains (s : CodeSet) (n : Nat) : Bool := search s.ranges n 0 s.ranges.size

def union (s t : CodeSet) : CodeSet := ofRanges (s.ranges.toList ++ t.ranges.toList)

def unions (ss : List CodeSet) : CodeSet := ofRanges (ss.flatMap (·.ranges.toList))

/-- What lies between the given ranges from `start` on. -/
def gaps (start : Nat) : List (Nat × Nat) → List (Nat × Nat)
  | [] => if start ≤ maxCode then [(start, maxCode)] else []
  | (a, b) :: rest => if start < a then (start, a - 1) :: gaps (b + 1) rest else gaps (b + 1) rest

def compl (s : CodeSet) : CodeSet := ⟨(gaps 0 s.ranges.toList).toArray⟩

def inter (s t : CodeSet) : CodeSet := (s.compl.union t.compl).compl

def diff (s t : CodeSet) : CodeSet := s.inter t.compl

def symmDiff (s t : CodeSet) : CodeSet := (s.diff t).union (t.diff s)

/-- The members that are characters: code points that only serve to write others in pairs are none. -/
def characters (s : CodeSet) : CodeSet :=
  if s.ranges.any fun (a, b) => a ≤ 0xDFFF && 0xD800 ≤ b then s.diff (range 0xD800 0xDFFF) else s

/-- The only member of a set, if it has just one. -/
def only? (s : CodeSet) : Option Nat :=
  match s.ranges.toList with
  | [(a, b)] => if a = b then some a else none
  | _ => none

def isAscii (s : CodeSet) : Bool := s.ranges.all fun (_, b) => b < 0x80

def hexDigit (c : Char) : Nat :=
  if c.isDigit then c.toNat - '0'.toNat else c.toNat - 'A'.toNat + 10

def hexNumber (ds : List Char) : Nat := ds.foldl (fun n d => 16 * n + hexDigit d) 0

/-- The ranges of a table entry such as `AA`, `41-5A` or `100-12E/2`. -/
def entryRanges (entry : List Char) : List (Nat × Nat) :=
  match Text.splitBy (fun c => c == '-' || c == '/') entry with
  | [lo] => [(hexNumber lo, hexNumber lo)]
  | [lo, hi] => [(hexNumber lo, hexNumber hi)]
  | [lo, hi, _] =>
    let first := hexNumber lo
    (List.range ((hexNumber hi - first) / 2 + 1)).map fun k => (first + 2 * k, first + 2 * k)
  | _ => []

/-- The entries of a table, which blanks and line breaks separate. -/
def entries (table : String) : List (List Char) :=
  (Text.splitBy Char.isWhitespace table.toList).filter (!·.isEmpty)

/-- Read a table. -/
def ofTable (table : String) : CodeSet := ofRanges ((entries table).flatMap entryRanges)

example : ofRanges [(5, 6), (1, 2), (3, 3)] = ⟨#[(1, 3), (5, 6)]⟩ := by cbv
example : ((range 1 9).diff (singleton 5)).ranges = #[(1, 4), (6, 9)] := by cbv
example : (ofTable "41-45/2 AA").ranges = #[(65, 65), (67, 67), (69, 69), (170, 170)] := by
  cbv

end CodeSet
end EditAssist.Unicode
