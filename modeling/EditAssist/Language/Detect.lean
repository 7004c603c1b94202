import EditAssist.Language
import EditAssist.Text.Lines

/-! Telling the language of a file: by the extension of its name if that is known, else by telling
idioms in its text, else the default language. -/
namespace EditAssist.Language
open Text

/-- The last part of a path that is not empty and not a dot, unless it goes up. -/
def fileName? (path : List Char) : Option (List Char) :=
  match ((splitOn '/' path).filter fun p => !p.isEmpty && p != ['.']).getLast? with
  | some p => if p = ['.', '.'] then none else some p
  | none => none

/-- What follows the last dot of a file name. A dot at the front opens no extension. -/
def extension? (path : List Char) : Option (List Char) :=
  match fileName? path with
  | none => none
  | some name =>
    let ext := (name.reverse.takeWhile (· != '.')).reverse
    if ext.length + 1 < name.length then some ext else none

/-- A line that Python code is likely to have. -/
def isPythonLine (line : List Char) : Bool :=
  let t := trimStart line
  startsWith t "def " || startsWith t "print(" || (startsWith t "import " && !endsWith t ";")

/-- The language that the idioms of a text point to. -/
def ofContent? (content : List Char) : Option Language :=
  let has := mentions content
  if has "#include <iostream>" || has "std::" || has "cout <<" then some cpp
  else if has "#include" then some c
  else if has "public static void main" || has "System.out.print" then some java
  else if has "fun main" || has "println(" then some kotlin
  else if (endedLines content).any isPythonLine || has "__name__" then some python
  else none

/-- The language of a file with the given name and content. -/
def detect (path content : List Char) : Language :=
  (((extension? path).bind ofExtension?) <|> ofContent? content).getD default

example : extension? "a/b.tar.gz".toList = some ['g', 'z'] := by decide
example : extension? ".profile".toList = none := by decide
example : extension? "a.".toList = some [] := by decide

end EditAssist.Language
