import EditAssist.Unicode.CodeSet

/-! How sets of characters look to an automaton that reads bytes: as sequences of byte ranges, each
of which holds exactly the encodings of the code points of one part of the set. -/
namespace EditAssist.Pattern
open Unicode

/-- A range of values for each byte of an encoding. -/
abbrev ByteRanges := List (Nat × Nat)

namespace Encoding

/-- The bytes of a code point in an encoding of `len` bytes. -/
def encode (len n : Nat) : List Nat :=
  match len with
  | 1 => [n]
  | 2 => [0xC0 + n / 64, 0x80 + n % 64]
  | 3 => [0xE0 + n / 4096, 0x80 + n / 64 % 64, 0x80 + n % 64]
  | _ => [0xF0 + n / 262144, 0x80 + n / 4096 % 64, 0x80 + n / 64 % 64, 0x80 + n % 64]

/-- How many bytes the encoding of a code point has. -/
def size (n : Nat) : Nat :=
  if n < 0x80 then 1 else if n < 0x800 then 2 else if n < 0x10000 then 3 else 4

/-- The bytes of a text. -/
def bytes (cs : List Char) : List Nat := cs.flatMap fun c => encode (size c.toNat) c.toNat

/-- Split a range of code points with encodings of one length so that every part is a product of
byte ranges: a part either varies freely in its last `tail` bytes or is cut further. -/
def products (len : Nat) : (tail : Nat) → Nat → Nat → List ByteRanges
  | 0, lo, hi => [(encode len lo).zip (encode len hi)]
  | tail + 1, lo, hi =>
    let block := 64 ^ (tail + 1)
    if lo / block = hi / block then products len tail lo hi
    else
      let head := if lo % block = 0 then [] else products len tail lo (lo / block * block + block - 1)
      let first := if lo % block = 0 then lo else lo / block * block + block
      let foot := if hi % block = block - 1 then [] else products len tail (hi / block * block) hi
      let last := if hi % block = block - 1 then hi else hi / block * block - 1
      let body := if first ≤ last then [(encode len first).zip (encode len last)] else []
      head ++ body ++ foot

/-- The part of a range between two bounds, if it is not empty. -/
def clip (lo hi a b : Nat) : Option (Nat × Nat) :=
  if max lo a ≤ min hi b then some (max lo a, min hi b) else none

/-- The encodings of the code points of a range that are characters. -/
def ofRange (lo hi : Nat) : List ByteRanges :=
  let part (a b len : Nat) : List ByteRanges :=
    match clip lo hi a b with
    | none => []
    | some (x, y) => products len (len - 1) x y
  part 0 0x7F 1 ++ part 0x80 0x7FF 2 ++ part 0x800 0xD7FF 3 ++ part 0xE000 0xFFFF 3 ++
    part 0x10000 0x10FFFF 4

/-- The encodings of the characters of a set, in increasing order. -/
def ofSet (s : CodeSet) : List ByteRanges := s.ranges.toList.flatMap fun (a, b) => ofRange a b

example : ofRange 0x7F 0x81 = [[(0x7F, 0x7F)], [(0xC2, 0xC2), (0x80, 0x81)]] := by decide

end Encoding
end EditAssist.Pattern
