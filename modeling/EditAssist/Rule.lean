import EditAssist.Diagnostic
import EditAssist.Pattern
import EditAssist.Text.Blank

/-! Diagnostic rules: a pattern, and the diagnostic that each of its matches in a line is. -/
namespace EditAssist

/-- The severity that a catalog means: a warning or a note is a warning, all else an error. -/
def Severity.ofCatalog (value : List Char) : Severity :=
  match String.ofList ((Text.trim value).map Char.toLower) with
  | "warning" | "info" => .warning
  | _ => .error

structure Rule where
  kind : String
  pattern : Pattern
  message : String
  severity : Severity

namespace Rule

/-- A rule whose pattern is given as text, if that is a pattern. -/
def make (kind pattern message : String) (severity : Severity) : Except Pattern.Fault Rule :=
  (Pattern.compile pattern).map fun p => ⟨kind, p, message, severity⟩

/-- The byte columns at which the rule finds something in a line. -/
def columns (r : Rule) (line : List Char) : List Nat := r.pattern.columns line

end Rule
end EditAssist
