import EditAssist.Unicode.Folding
import EditAssist.Unicode.Property
import EditAssist.Pattern.Expr

/-! The modes a pattern is read in, and what literal characters, classes and conditions mean in
each mode. A pattern starts out caseless and with the letters of every script. -/
namespace EditAssist.Pattern
open Unicode

structure Flags where
  caseless : Bool := true
  multiline : Bool := false
  dotAll : Bool := false
  lazy : Bool := false
  wide : Bool := true
  returns : Bool := false
  verbose : Bool := false
  deriving DecidableEq, Repr

namespace Flags

/-- Set the flag with the given letter; `none` for a letter that is no flag. -/
def set? (f : Flags) (letter : Char) (value : Bool) : Option Flags :=
  match letter with
  | 'i' => some { f with caseless := value }
  | 'm' => some { f with multiline := value }
  | 's' => some { f with dotAll := value }
  | 'U' => some { f with lazy := value }
  | 'u' => some { f with wide := value }
  | 'R' => some { f with returns := value }
  | 'x' => some { f with verbose := value }
  | _ => none

/-- Add to a set of ASCII code points the other case of each letter. -/
def closeAscii (s : CodeSet) : CodeSet :=
  let upper := s.inter (.range 0x41 0x5A)
  let lower := s.inter (.range 0x61 0x7A)
  .unions [s, .ofRanges (upper.ranges.toList.map fun (a, b) => (a + 32, b + 32)),
    .ofRanges (lower.ranges.toList.map fun (a, b) => (a - 32, b - 32))]

/-- The set with every character that equals a member up to case, when case is to be ignored. -/
def folded (f : Flags) (s : CodeSet) : CodeSet :=
  if f.caseless then (if f.wide then Folding.close s else closeAscii s) else s

/-- Every code point a class may name: all of them, or single bytes. -/
def alphabet (f : Flags) : CodeSet := if f.wide then .all else .range 0 0xFF

/-- Accept a set unless it holds a byte that is no character of its own. -/
def checked (f : Flags) (s : CodeSet) : Option CodeSet :=
  if f.wide || (s.diff (.range 0 0x7F)).isEmpty then some s else none

/-- A class with its members up to case, or what it leaves out. Bytes outside ASCII are no
characters, so without the wide alphabet a class may not reach them. -/
def finish (f : Flags) (negated : Bool) (s : CodeSet) : Option CodeSet :=
  let s' := f.folded s
  f.checked (if negated then f.alphabet.diff s' else s')

/-- A literal character. -/
def literal (f : Flags) (c : Char) : Expr :=
  if f.wide || c.toNat < 0x80 then .ofSet (f.folded (.singleton c.toNat))
  else .text [c]

/-- The dot: every character, or every one that does not end a line. -/
def dot (f : Flags) : Option Expr :=
  if !f.wide then none
  else if f.dotAll then some (.ofSet .all)
  else if f.returns then some (.ofSet (CodeSet.compl (.ofRanges [(0xA, 0xA), (0xD, 0xD)])))
  else some (.ofSet (CodeSet.compl (.singleton 0xA)))

def asciiWord : CodeSet := .ofTable "30-39 41-5A 5F 61-7A"

def asciiSpace : CodeSet := .ofTable "9-D 20"

/-- The class of digits, spaces or word characters. -/
def shorthand (f : Flags) (negated : Bool) (letter : Char) : Option CodeSet :=
  let base :=
    match letter with
    | 'd' => if f.wide then Category.decimalNumber else .range 0x30 0x39
    | 's' => if f.wide then Property.whiteSpace else asciiSpace
    | _ => if f.wide then Property.wordCharacter else asciiWord
  f.checked (if negated then f.alphabet.diff base else base)

/-- The classes that are named inside brackets, such as `[:alpha:]`. -/
def posix? : String → Option CodeSet
  | "alnum" => some (.ofTable "30-39 41-5A 61-7A")
  | "alpha" => some (.ofTable "41-5A 61-7A")
  | "ascii" => some (.range 0 0x7F)
  | "blank" => some (.ofTable "9 20")
  | "cntrl" => some (.ofTable "0-1F 7F")
  | "digit" => some (.range 0x30 0x39)
  | "graph" => some (.range 0x21 0x7E)
  | "lower" => some (.range 0x61 0x7A)
  | "print" => some (.range 0x20 0x7E)
  | "punct" => some (.ofTable "21-2F 3A-40 5B-60 7B-7E")
  | "space" => some asciiSpace
  | "upper" => some (.range 0x41 0x5A)
  | "word" => some asciiWord
  | "xdigit" => some (.ofTable "30-39 41-46 61-66")
  | _ => none

/-- What `^` asks for. -/
def caret (f : Flags) : Look :=
  if f.multiline then (if f.returns then .lineStartReturn else .lineStart) else .textStart

/-- What `$` asks for. -/
def dollar (f : Flags) : Look :=
  if f.multiline then (if f.returns then .lineEndReturn else .lineEnd) else .textEnd

end Flags
end EditAssist.Pattern
