import EditAssist.Unicode.Break.Grapheme
import EditAssist.Unicode.Break.Sentence
import EditAssist.Unicode.Break.Word
import EditAssist.Unicode.Edition

/-! Finding a class of characters by name. Names are compared loosely: upper or lower case, with or
without spaces, hyphens and underscores, and with or without a leading "is". -/
namespace EditAssist.Unicode.Lookup

/-- The letters of a name that count, in lower case. -/
def letters (name : List Char) : List Char :=
  (name.filter fun c => c.toNat < 0x80 && c != ' ' && c != '_' && c != '-').map Char.toLower

/-- The form of a name that is compared. A lone "isc" keeps its first letters. -/
def key (name : List Char) : String :=
  match name with
  | i :: s :: rest =>
    if i.toLower = 'i' && s.toLower = 's' then
      if letters rest = ['c'] then "isc" else String.ofList (letters rest)
    else String.ofList (letters name)
  | _ => String.ofList (letters name)

def property? (k : String) : Option CodeSet := Property.named.lookup k

def category? (k : String) : Option CodeSet := Category.named.lookup k

def script? (k : String) : Option CodeSet := (Script.named? k).map Script.members

/-- A class by its own name: a property, else a general category, else a script. -/
def byName? (name : List Char) : Option CodeSet :=
  let k := key name
  property? k <|> category? k <|> script? k

/-- A class as the value of a property. -/
def byValue? (name value : List Char) : Option CodeSet :=
  let k := key name
  let v := key value
  if k = "generalcategory" || k = "gc" then category? v
  else if k = "script" || k = "sc" then script? v
  else if k = "scriptextensions" || k = "scx" then (Script.named? v).map Script.extended
  else if k = "age" then Edition.assigned? v
  else if k = "graphemeclusterbreak" || k = "gcb" then Break.Grapheme.named.lookup v
  else if k = "wordbreak" || k = "wb" then Break.Word.named.lookup v
  else if k = "sentencebreak" || k = "sb" then Break.Sentence.named.lookup v
  else none

end EditAssist.Unicode.Lookup
