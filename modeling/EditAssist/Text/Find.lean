import EditAssist.Text.Bytes

/-! Searching for a fixed text. -/
namespace EditAssist.Text

/-- The byte offset at which `part` first occurs. -/
def find? (part : List Char) : List Char → Option Nat
  | [] => if part.isEmpty then some 0 else none
  | c :: t =>
    if part.isPrefixOf (c :: t) then some 0 else (find? part t).map (c.utf8Size + ·)

/-- Whether `part` occurs somewhere. -/
def occursIn (part : List Char) : List Char → Bool
  | [] => part.isEmpty
  | c :: t => part.isPrefixOf (c :: t) || occursIn part t

/-- Whether a text occurs, for a part that is given as a string. -/
def mentions (t : List Char) (part : String) : Bool := occursIn part.toList t

def startsWith (t : List Char) (part : String) : Bool := part.toList.isPrefixOf t

def endsWith (t : List Char) (part : String) : Bool := part.toList.isSuffixOf t

example : find? "b".toList "éb".toList = some 2 := by decide

end EditAssist.Text
