import EditAssist.Style

/-! Diagnostics: findings about a line of a text, each of a kind and a severity. -/
namespace EditAssist

/-- Severities, the worst first. -/
inductive Severity where
  | error
  | warning
  | info
  deriving DecidableEq, Repr

namespace Severity

def all : List Severity := [error, warning, info]

def rank : Severity → Nat
  | error => 0
  | warning => 1
  | info => 2

def name : Severity → String
  | error => "error"
  | warning => "warning"
  | info => "info"

/-- The background of a line with a diagnostic of this severity. -/
def overlayStyle : Severity → Style
  | error => { bg := .red }
  | warning => { bg := .yellow }
  | info => { bg := .blue }

/-- The style in which a report names the severity. -/
def reportStyle : Severity → Style
  | error => { fg := .brightRed, bold := true }
  | warning => { fg := .brightYellow, bold := true }
  | info => { fg := .brightBlue, bold := true }

end Severity

structure Diagnostic where
  /-- Counted from one. -/
  line : Nat
  /-- The byte offset in the line, counted from zero. -/
  column : Nat
  severity : Severity
  kind : String
  message : String
  deriving DecidableEq, Repr

namespace Diagnostic

/-- How to mend a diagnostic of a kind. -/
def suggestionFor : String → Option String
  | "missing_semicolon" => some "Add ';' at the end of the statement"
  | "missing_paren" | "function_syntax" => some "Add a parameter list, e.g. name()"
  | "missing_colon" => some "End the block header with ':'"
  | "missing_initializer" => some "Initialize the value with '= ...'"
  | "indentation" => some "Indent with a multiple of 4 spaces"
  | "no_entry_point" => some "Add a main method to run this class"
  | "missing_include" => some "Include the standard I/O header at the top of the file"
  | "unmatched_bracket" => some "Remove the extra closing bracket"
  | "mismatched_bracket" => some "Close brackets in the reverse order they were opened"
  | "unclosed_bracket" => some "Add the matching closing bracket"
  | "unclosed_string" => some "Add the closing quote"
  | "unclosed_comment" => some "Close the comment with '*/'"
  | "class_syntax" => some "Give the class a name"
  | "main_signature" => some "Declare main as main(String[] args)"
  | "print_statement" => some "Wrap the arguments in print(...)"
  | "unsafe_gets" => some "Use fgets(buf, sizeof buf, stdin)"
  | "stream_operator" => some "Use cout << value or cin >> variable"
  | _ => none

def suggestion (d : Diagnostic) : Option String := suggestionFor d.kind

/-- A diagnostic on one line. -/
def describe (d : Diagnostic) : String :=
  toString d.line ++ ":" ++ toString d.column ++ ": " ++ d.severity.name ++ ": " ++ d.message ++
    " [" ++ d.kind ++ "]"

end Diagnostic
end EditAssist
