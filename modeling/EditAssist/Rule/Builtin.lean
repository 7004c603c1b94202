import EditAssist.Language
import EditAssist.Rule

/-! The rules that hold when no catalog says otherwise. -/
namespace EditAssist.Rule

/-- The rules of a list whose patterns are patterns. -/
def compiled (rs : List (Except Pattern.Fault Rule)) : List Rule := rs.filterMap Except.toOption

def kotlinRules : List Rule := compiled
  [make "function_syntax" "\\bfun\\s+\\w+\\s*$"
      "Function declaration is missing its parameter list" .error,
    make "class_syntax" "\\bclass\\s*\\\x7b" "Class declaration is missing a name" .error]

def javaRules : List Rule := compiled
  [make "main_signature" "\\bpublic\\s+static\\s+void\\s+main\\s*\\(\\s*\\)"
      "main must take a String[] argument" .error]

def pythonRules : List Rule := compiled
  [make "print_statement" "^\\s*print\\s+[\"'\\w]" "print is a function; call it as print(...)" .error]

def cppRules : List Rule := compiled
  [make "stream_operator" "\\b(cout\\s*>>|cin\\s*<<)" "Stream operator points the wrong way" .error]

def cRules : List Rule := compiled
  [make "unsafe_gets" "\\bgets\\s*\\(" "gets() cannot be used safely; use fgets()" .error]

/-- The built-in rules of a language. -/
def builtin : Language → List Rule
  | .kotlin => kotlinRules
  | .java => javaRules
  | .python => pythonRules
  | .cpp => cppRules
  | .c => cRules

end EditAssist.Rule
