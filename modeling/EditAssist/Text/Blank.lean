import EditAssist.Unicode.Letter

/-! Trimming white space off the ends of a text. -/
namespace EditAssist.Text
open Unicode

def trimStart (t : List Char) : List Char := t.dropWhile isBlank

def trimEnd (t : List Char) : List Char := (t.reverse.dropWhile isBlank).reverse

def trim (t : List Char) : List Char := trimEnd (trimStart t)

/-- The lower case of a name that will be compared with an ASCII name. Besides the ASCII capitals
only the Kelvin sign has an ASCII letter as its lower case, so other characters may stay as they
are: a name that holds one equals no ASCII name either way. -/
def lowerName (t : List Char) : List Char :=
  t.map fun c => if c = '\u212a' then 'k' else c.toLower

example : trim " a b\t".toList = ['a', ' ', 'b'] := by decide

end EditAssist.Text
