import EditAssist.Diagnostic
import Std.Data.HashSet

/-! Putting diagnostics in order. Of several diagnostics of one kind at one place the first counts;
the rest are ordered by line and, on a line, by severity, and keep their order otherwise. -/
namespace EditAssist.Diagnostic

/-- What tells two diagnostics apart. -/
def key (d : Diagnostic) : Nat × Nat × String := (d.line, d.column, d.kind)

/-- Keep the diagnostics whose key has not been seen, the first of each key. -/
def distinctFrom (seen : Std.HashSet (Nat × Nat × String)) : List Diagnostic → List Diagnostic
  | [] => []
  | d :: ds =>
    if seen.contains d.key then distinctFrom seen ds
    else d :: distinctFrom (seen.insert d.key) ds

def distinct (ds : List Diagnostic) : List Diagnostic := distinctFrom ∅ ds

/-- Whether a diagnostic may stand before another. -/
def before (a b : Diagnostic) : Bool :=
  a.line < b.line || (a.line == b.line && a.severity.rank ≤ b.severity.rank)

/-- One diagnostic for each key, ordered by line and severity. -/
def arrange (ds : List Diagnostic) : List Diagnostic := (distinct ds).mergeSort before

example : arrange [⟨2, 0, .error, "k", "a"⟩, ⟨1, 0, .info, "k", "b"⟩, ⟨2, 0, .info, "k", "c"⟩] =
    [⟨1, 0, .info, "k", "b"⟩, ⟨2, 0, .error, "k", "a"⟩] := by cbv

end EditAssist.Diagnostic
