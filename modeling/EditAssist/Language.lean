import EditAssist.Text.Blank
import EditAssist.Text.Find
import EditAssist.Text.Split

/-! The languages the editor knows, and what it knows of each: names, file extensions and comment
styles. -/
namespace EditAssist

inductive Language where
  | kotlin
  | java
  | python
  | cpp
  | c
  deriving DecidableEq, Repr, Inhabited

namespace Language

/-- Every language, the default one first. -/
def all : List Language := [kotlin, java, python, cpp, c]

/-- The place of a language in `all`. -/
def index : Language → Nat
  | kotlin => 0
  | java => 1
  | python => 2
  | cpp => 3
  | c => 4

def name : Language → String
  | kotlin => "kotlin"
  | java => "java"
  | python => "python"
  | cpp => "cpp"
  | c => "c"

def extensions : Language → List String
  | kotlin => ["kt", "kts"]
  | java => ["java"]
  | python => ["py"]
  | cpp => ["cpp", "cc", "cxx", "c++"]
  | c => ["c", "h"]

/-- What opens a comment that runs to the end of the line. -/
def lineComment : Language → String
  | python => "#"
  | _ => "//"

/-- Whether comments may also stand between `/*` and `*/`. -/
def hasBlockComments : Language → Bool
  | python => false
  | _ => true

/-- Whether the language has the C preprocessor. -/
def isCFamily : Language → Bool
  | cpp | c => true
  | _ => false

/-- Whether statements end in a semicolon. -/
def usesTerminators : Language → Bool
  | java | cpp | c => true
  | _ => false

/-- The language a name stands for, whatever its case and the blanks around it. -/
def ofName? (name : List Char) : Option Language :=
  match String.ofList (Text.lowerName (Text.trim name)) with
  | "kotlin" | "kt" => some kotlin
  | "java" => some java
  | "python" | "py" => some python
  | "cpp" | "c++" => some cpp
  | "c" => some c
  | _ => none

/-- The language of files with an extension, whatever its case. -/
def ofExtension? (ext : List Char) : Option Language :=
  let key := String.ofList (Text.lowerName ext)
  all.find? fun l => l.extensions.contains key

example : all.map index = [0, 1, 2, 3, 4] := by decide

end Language
end EditAssist
