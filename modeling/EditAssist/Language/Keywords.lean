import EditAssist.Language

/-! The reserved words of each language. -/
namespace EditAssist.Language

def kotlinKeywords : List String :=
  ["as", "break", "class", "continue", "do", "else", "false", "for", "fun", "if", "in",
    "interface", "is", "null", "object", "package", "return", "super", "this", "throw", "true",
    "try", "typealias", "typeof", "val", "var", "when", "while", "by", "catch", "constructor",
    "companion", "data", "enum", "finally", "import", "init", "internal", "open", "override",
    "private", "protected", "public", "sealed", "suspend"]

def javaKeywords : List String :=
  ["abstract", "assert", "boolean", "break", "byte", "case", "catch", "char", "class", "const",
    "continue", "default", "do", "double", "else", "enum", "extends", "final", "finally",
    "float", "for", "goto", "if", "implements", "import", "instanceof", "int", "interface",
    "long", "native", "new", "package", "private", "protected", "public", "return", "short",
    "static", "strictfp", "super", "switch", "synchronized", "this", "throw", "throws",
    "transient", "try", "void", "volatile", "while", "true", "false", "null", "var", "record"]

def pythonKeywords : List String :=
  ["False", "None", "True", "and", "as", "assert", "async", "await", "break", "class",
    "continue", "def", "del", "elif", "else", "except", "finally", "for", "from", "global",
    "if", "import", "in", "is", "lambda", "nonlocal", "not", "or", "pass", "raise", "return",
    "try", "while", "with", "yield"]

def cKeywords : List String :=
  ["auto", "break", "case", "char", "const", "continue", "default", "do", "double", "else",
    "enum", "extern", "float", "for", "goto", "if", "inline", "int", "long", "register",
    "restrict", "return", "short", "signed", "sizeof", "static", "struct", "switch", "typedef",
    "union", "unsigned", "void", "volatile", "while"]

/-- C++ reserves the words of C and more. -/
def cppKeywords : List String :=
  cKeywords ++
    ["bool", "catch", "class", "constexpr", "delete", "explicit", "false", "friend", "mutable",
      "namespace", "new", "noexcept", "nullptr", "operator", "private", "protected", "public",
      "template", "this", "throw", "true", "try", "typename", "using", "virtual"]

def keywords : Language → List String
  | kotlin => kotlinKeywords
  | java => javaKeywords
  | python => pythonKeywords
  | cpp => cppKeywords
  | c => cKeywords

end EditAssist.Language
