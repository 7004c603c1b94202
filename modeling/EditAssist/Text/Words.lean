import EditAssist.Text.Bytes
import EditAssist.Unicode.Letter

/-! Words of a line: longest runs of letters, digits and underscores. -/
namespace EditAssist.Text
open Unicode

def isWordChar (c : Char) : Bool := isAlphanumeric c || c = '_'

/-- The words of a text with their byte columns; `column` is where the text starts. -/
def wordsFrom (column : Nat) (t : List Char) : List (Nat × List Char) :=
  match t with
  | [] => []
  | c :: rest =>
    if isWordChar c then
      let word := c :: rest.takeWhile isWordChar
      (column, word) :: wordsFrom (column + bytes word) (rest.dropWhile isWordChar)
    else wordsFrom (column + c.utf8Size) rest
termination_by t.length
decreasing_by
  · have := (List.dropWhile_suffix isWordChar (l := rest)).length_le
    simp only [List.length_cons]; omega
  · simp only [List.length_cons]; omega

def words (t : List Char) : List (List Char) := (wordsFrom 0 t).map (·.2)

def hasWord (t : List Char) (word : String) : Bool := (words t).contains word.toList

/-- The column of the first of the placed words that equals `word`, else of the last one. -/
def columnAmong (word : List Char) : Nat → List (Nat × List Char) → Nat
  | column, [] => column
  | _, (column, w) :: rest => if w = word then column else columnAmong word column rest

/-- The byte column of a word in a line. -/
def wordColumn (t : List Char) (word : String) : Nat := columnAmong word.toList 0 (wordsFrom 0 t)

example : words "a_1 b".toList = [['a', '_', '1'], ['b']] := by cbv

end EditAssist.Text
