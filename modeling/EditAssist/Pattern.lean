import EditAssist.Pattern.Cost
import EditAssist.Pattern.Program
import EditAssist.Pattern.Reader

/-! Patterns: the text searched for by a diagnostic rule. Matching ignores case unless the pattern
says otherwise, never looks around beyond the characters next to a place, and takes time bounded by
the sizes of pattern and text. -/
namespace EditAssist

/-- A pattern as it was written, ready to run. -/
structure Pattern where
  source : String
  program : Pattern.Program

namespace Pattern

/-- Why a text is no pattern. -/
inductive Fault where
  | malformed
  | tooDeep
  | tooLarge
  deriving DecidableEq, Repr

/-- How deep groups, classes and repetitions may nest. -/
def nestingLimit : Nat := 250

def compile (source : String) : Except Fault Pattern :=
  match read source.toList with
  | none => .error .malformed
  | some item =>
    if item.depth > nestingLimit then .error .tooDeep
    else if Cost.fits item.expr then .ok ⟨source, .ofExpr item.expr⟩
    else .error .tooLarge

/-- The byte columns at which the pattern matches in a line. -/
def columns (p : Pattern) (line : List Char) : List Nat := p.program.starts line

example : ((compile "(?-i)a|ab").toOption.map fun p => p.columns "xab".toList) = some [1] := by cbv

end Pattern
end EditAssist
