import EditAssist.Analysis.Context
import EditAssist.Diagnostic

/-! Checks of single lines, by language. A check looks at the code of a line: the line up to a
comment that starts outside quotes. -/
namespace EditAssist.Analysis
open Text

/-- A line up to the first `opener` outside quotes; `quote` is the quote that is open before it and
`escaped` says whether a backslash stands before it. -/
def codeBefore (opener : List Char) : (quote : Option Char) → (escaped : Bool) → List Char → List Char
  | _, _, [] => []
  | some q, escaped, c :: t =>
    if escaped then c :: codeBefore opener (some q) false t
    else if c = '\\' then c :: codeBefore opener (some q) true t
    else if c = q then c :: codeBefore opener none false t
    else c :: codeBefore opener (some q) false t
  | none, _, c :: t =>
    if c = '"' || c = '\'' then c :: codeBefore opener (some c) false t
    else if opener.isPrefixOf (c :: t) then []
    else c :: codeBefore opener none false t

/-- The code of a line. -/
def codeOf (lang : Language) (line : List Char) : List Char :=
  let code := codeBefore lang.lineComment.toList none false line
  if lang.hasBlockComments then codeBefore ['/', '*'] none false code else code

/-- A finding in a line: everything about a diagnostic but the number of the line. -/
structure Finding where
  column : Nat
  severity : Severity
  kind : String
  message : String
  deriving DecidableEq, Repr

def Finding.at (f : Finding) (line : Nat) : Diagnostic :=
  ⟨line, f.column, f.severity, f.kind, f.message⟩

/-- A function declared by `keyword` has a parameter list. -/
def checkParen (keyword : String) (code : List Char) : List Finding :=
  if hasWord code keyword && !code.contains '(' then
    [⟨wordColumn code keyword, .error, "missing_paren", "Function declaration is missing '('"⟩]
  else []

/-- A declared value is initialized. -/
def checkBinding (code : List Char) : List Finding :=
  match ["val", "var"].find? (hasWord code) with
  | none => []
  | some keyword =>
    if code.contains '=' then []
    else
      [⟨wordColumn code keyword, .warning, "missing_initializer",
        "'" ++ keyword ++ "' declaration has no initializer"⟩]

/-- What a line may end in without a further terminator. -/
def isTerminator (c : Char) : Bool := c = ';' || c = '\x7b' || c = '\x7d' || c = ':'

/-- Whether a line of code, trimmed, needs no terminator. -/
def needsNoTerminator (trimmed : List Char) : Bool :=
  trimmed.isEmpty || startsWith trimmed "@" || endsWith trimmed "*/" ||
    ((words trimmed).head?.map fun w => controlKeywords.contains (String.ofList w)).getD false ||
    (trimmed.getLast?.map isTerminator).getD false

/-- A statement is terminated. -/
def checkTerminator (code : List Char) : List Finding :=
  if needsNoTerminator (trim code) then []
  else
    [⟨bytes (trimEnd code), .error, "missing_semicolon", "Missing terminator: expected ';'"⟩]

/-- A class is declared in a program that starts somewhere. -/
def checkEntryPoint (context : Context) (code : List Char) : List Finding :=
  if hasWord code "class" && !context.hasEntryPoint then
    [⟨wordColumn code "class", .info, "no_entry_point",
      "Class declared but the file has no main method"⟩]
  else []

/-- Words that start the header of an indented block. -/
def blockHeaders : List String :=
  ["def", "class", "if", "elif", "else", "for", "while", "try", "except", "finally", "with"]

/-- The header of a block ends in a colon. -/
def checkBlockColon (code : List Char) : List Finding :=
  let trimmed := trim code
  let header := ((words trimmed).head?.map fun w =>
    w.isPrefixOf trimmed && blockHeaders.contains (String.ofList w)).getD false
  if header && !endsWith trimmed ":" then
    [⟨bytes (trimEnd code), .error, "missing_colon", "Block header must end with ':'"⟩]
  else []

/-- A declaration is indented by a multiple of four. -/
def checkIndentation (code : List Char) : List Finding :=
  let t := trimStart code
  let indent := indentWidth code
  if (startsWith t "def " || startsWith t "class ") && indent % 4 ≠ 0 then
    [⟨0, .warning, "indentation", "Indentation of " ++ toString indent ++ " is not a multiple of 4"⟩]
  else []

/-- The findings in a line that is not all comment. -/
def checkLine (lang : Language) (context : Context) (line : List Char) : List Finding :=
  let code := codeOf lang line
  match lang with
  | .kotlin => checkParen "fun" code ++ checkBinding code
  | .java => checkTerminator code ++ checkEntryPoint context code
  | .python => checkParen "def" code ++ checkBlockColon code ++ checkIndentation code
  | .cpp | .c => checkTerminator code

example : codeBefore ['#'] none false "'#' # b".toList = "'#' ".toList := by decide

end EditAssist.Analysis
