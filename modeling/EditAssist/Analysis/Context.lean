import EditAssist.Language
import EditAssist.Text.Lines
import EditAssist.Text.Words

/-! Facts about a whole text that the checks of its lines ask for. -/
namespace EditAssist.Analysis
open Text

/-- Words that start a line which needs no terminator. -/
def controlKeywords : List String :=
  ["if", "else", "for", "while", "do", "switch", "case", "default", "try", "catch", "finally"]

/-- Whether a line, trimmed, declares where the program starts. -/
def isEntryPoint (line : List Char) : Language → Bool
  | .kotlin => mentions line "fun main"
  | .java => mentions line "static void main"
  | .python => mentions line "__name__" || startsWith line "def main("
  | .cpp | .c => mentions line "main(" && (hasWord line "int" || hasWord line "void")

/-- Whether a line, trimmed, declares a class or the like. -/
def isClassDeclaration (line : List Char) : Language → Bool
  | .kotlin => ["class", "interface", "object"].any (hasWord line)
  | .java => ["class", "interface", "enum", "record"].any (hasWord line)
  | .python => startsWith line "class "
  | .cpp => hasWord line "class" || hasWord line "struct"
  | .c => hasWord line "struct"

/-- A type and a name before a parenthesis, on a line that ends like a declaration. -/
def looksDeclared (line : List Char) : Bool :=
  line.contains '(' &&
    let head := words (line.takeWhile (· != '('))
    let control := (head.head?.map fun w => controlKeywords.contains (String.ofList w)).getD false
    2 ≤ head.length && !control && (endsWith line "\x7b" || endsWith line ")")

/-- Whether a line, trimmed, declares a function. -/
def isFunctionDeclaration (line : List Char) : Language → Bool
  | .kotlin => hasWord line "fun"
  | .python => startsWith line "def " || startsWith line "async def "
  | .java | .cpp | .c => looksDeclared line

/-- The width of the blanks and tabs a line starts with; a tab is four wide. -/
def indentWidth : List Char → Nat
  | ' ' :: t => indentWidth t + 1
  | '\t' :: t => indentWidth t + 4
  | _ => 0

/-- The deepest nesting of brackets, from a depth and the deepest so far. A closing bracket too many
leaves the depth at zero. -/
def depthFrom : (depth deepest : Nat) → List Char → Nat
  | _, deepest, [] => deepest
  | depth, deepest, c :: t =>
    if c = '(' || c = '[' || c = '\x7b' then depthFrom (depth + 1) (max deepest (depth + 1)) t
    else if c = ')' || c = ']' || c = '\x7d' then depthFrom (depth - 1) deepest t
    else depthFrom depth deepest t

structure Context where
  hasEntryPoint : Bool
  hasClass : Bool
  hasFunction : Bool
  /-- The least indentation of a line that is indented at all. -/
  minIndent : Option Nat
  maxDepth : Nat
  deriving DecidableEq, Repr

/-- The context of a text. Blank lines say nothing. -/
def Context.ofText (lang : Language) (text : List Char) : Context :=
  let ls := (endedLines text).filter fun l => !(trim l).isEmpty
  { hasEntryPoint := ls.any fun l => isEntryPoint (trim l) lang
    hasClass := ls.any fun l => isClassDeclaration (trim l) lang
    hasFunction := ls.any fun l => isFunctionDeclaration (trim l) lang
    minIndent := ((ls.map indentWidth).filter (0 < ·)).min?
    maxDepth := depthFrom 0 0 text }

example : indentWidth "\t x".toList = 5 := by decide
example : depthFrom 0 0 "))((".toList = 2 := by decide

end EditAssist.Analysis
