import EditAssist.Diagnostic
import EditAssist.LineIndex
import EditAssist.Token.Lexer

/-! Matching brackets. The brackets that count are those in plain tokens and in a string that
nothing closes, whose text is still taken for code. Brackets are matched with a stack: a closing
bracket meets the bracket opened last, and is reported if there is none or if it is of another
kind; what is open at the end is reported too, the outermost first. -/
namespace EditAssist.Analysis
open Text

/-- Whether the brackets of a token count. -/
def holdsCode (t : Token) : Bool := t.category = .normal || t.isOpenString

/-- The characters of a text with their byte offsets, from `start` on. -/
def placed : Nat → List Char → List (Nat × Char)
  | _, [] => []
  | start, c :: t => (start, c) :: placed (start + c.utf8Size) t

/-- The characters that count as code, with their byte offsets. -/
def codeFrom : Nat → List Token → List (Nat × Char)
  | _, [] => []
  | start, t :: ts =>
    let rest := codeFrom (start + bytes t.text) ts
    if holdsCode t then placed start t.text ++ rest else rest

def isOpener (c : Char) : Bool := c = '(' || c = '[' || c = '\x7b'

def isCloser (c : Char) : Bool := c = ')' || c = ']' || c = '\x7d'

def closerOf : Char → Char
  | '(' => ')'
  | '[' => ']'
  | _ => '\x7d'

/-- The brackets of the code, with their byte offsets. -/
def brackets (ts : List Token) : List (Nat × Char) :=
  (codeFrom 0 ts).filter fun (_, c) => isOpener c || isCloser c

/-- What can be wrong with a bracket. -/
inductive BracketFault where
  | unmatched (closer : Char)
  | mismatched (expected : Char)
  | unclosed (opener : Char)
  deriving DecidableEq, Repr

namespace BracketFault

def kind : BracketFault → String
  | unmatched _ => "unmatched_bracket"
  | mismatched _ => "mismatched_bracket"
  | unclosed _ => "unclosed_bracket"

def message : BracketFault → String
  | unmatched c => "Unmatched closing bracket '" ++ c.toString ++ "'"
  | mismatched c => "Mismatched bracket, expected '" ++ c.toString ++ "'"
  | unclosed c => "Unclosed bracket '" ++ c.toString ++ "'"

end BracketFault

/-- Match brackets against the stack of open ones, the last opened first; gives the faults with
their offsets. -/
def matchBrackets : (opened : List (Nat × Char)) → List (Nat × Char) → List (Nat × BracketFault)
  | opened, [] => opened.reverse.map fun (o, c) => (o, .unclosed c)
  | opened, (o, c) :: rest =>
    if isOpener c then matchBrackets ((o, c) :: opened) rest
    else if isCloser c then
      match opened with
      | [] => (o, .unmatched c) :: matchBrackets [] rest
      | (_, opener) :: opened =>
        if closerOf opener = c then matchBrackets opened rest
        else (o, .mismatched (closerOf opener)) :: matchBrackets opened rest
    else matchBrackets opened rest

def bracketDiagnostic (index : LineIndex) (o : Nat) (f : BracketFault) : Diagnostic :=
  let (line, column) := index.locate o
  ⟨line, column, .error, f.kind, f.message⟩

/-- The diagnostics on the brackets of a text that has the given tokens. -/
def bracketDiagnostics (index : LineIndex) (ts : List Token) : List Diagnostic :=
  (matchBrackets [] (brackets ts)).map fun (o, f) => bracketDiagnostic index o f

example : matchBrackets [] [(0, '('), (1, ']'), (2, ')')] =
    [(1, .mismatched ')'), (2, .unmatched ')')] := by decide

end EditAssist.Analysis
