import EditAssist.Analysis.Brackets
import EditAssist.Analysis.LineCheck
import EditAssist.Analysis.Unclosed
import EditAssist.Diagnostic.Order
import EditAssist.Rule

/-! The analysis of a text: first line by line, with the rules and the checks of its language, then
as a whole, for brackets, strings and comments that do not close. -/
namespace EditAssist.Analysis
open Text

/-- The headers that declare standard input and output, the recommended one first. -/
def ioHeaders : Language → List String
  | .cpp => ["<iostream>", "<cstdio>", "<stdio.h>"]
  | _ => ["<stdio.h>"]

/-- Whether a text includes such a header. -/
def hasIoInclude (lang : Language) (text : List Char) : Bool :=
  (endedLines text).any fun l =>
    let t := trimStart l
    startsWith t "#include" && (ioHeaders lang).any (mentions t)

/-- The diagnostic on a text that does not; it stands at the top. -/
def missingInclude (lang : Language) : Diagnostic :=
  ⟨1, 0, .error, "missing_include", "Missing #include " ++ ((ioHeaders lang).head?.getD "")⟩

/-- Whether a byte offset lies inside a comment, given the spans that do not end before it. -/
def startsInComment (offset : Nat) (spans : List Span) : Bool :=
  match spans with
  | s :: _ => s.start < offset && s.category = .comment
  | [] => false

/-- Whether a line is all comment or blank. -/
def isIdle (lang : Language) (line : List Char) : Bool :=
  let t := trim line
  t.isEmpty || startsWith t "//" || startsWith t "#" || (lang.hasBlockComments && startsWith t "/*")

/-- The diagnostics of one rule in a line. -/
def ruleDiagnostics (number : Nat) (line : List Char) (r : Rule) : List Diagnostic :=
  (r.columns line).map fun column => ⟨number, column, r.severity, r.kind, r.message⟩

/-- What a line pass knows of the text as a whole. -/
structure Setting where
  lang : Language
  rules : List Rule
  context : Context
  /-- Whether a header for standard input and output is wanting. -/
  wantsInclude : Bool

/-- The diagnostics of one line that is neither blank nor all comment. -/
def lineDiagnostics (s : Setting) (number : Nat) (line : List Char) : List Diagnostic :=
  (if s.wantsInclude then [missingInclude s.lang] else []) ++
    s.rules.flatMap (ruleDiagnostics number line) ++
    (checkLine s.lang s.context line).map (·.at number)

/-- The diagnostics of the lines of a text, which are numbered from `number` on. A line that starts
inside a comment is passed over, and so is an idle one. -/
def passFrom (s : Setting) : Nat → List Span → List Line → List Diagnostic
  | _, _, [] => []
  | number, spans, l :: ls =>
    let spans := spans.dropWhile (·.stop ≤ l.start)
    let rest := passFrom s (number + 1) spans ls
    if startsInComment l.start spans || isIdle s.lang l.text then rest
    else lineDiagnostics s number l.text ++ rest

end EditAssist.Analysis

namespace EditAssist
open Analysis Text

/-- The diagnostics on a text, with the reserved words and rules of its language. -/
def analyze (lang : Language) (keywords : List String) (rules : List Rule) (text : List Char) :
    List Diagnostic :=
  let tokens := Token.tokenize lang keywords text
  let index := LineIndex.ofText text
  let setting : Setting :=
    { lang, rules
      context := Context.ofText lang text
      wantsInclude := lang.isCFamily && !hasIoInclude lang text }
  Diagnostic.arrange
    (passFrom setting 1 (Token.spans tokens) (lines text) ++
      bracketDiagnostics index tokens ++
      stringDiagnostics index tokens ++
      if lang.hasBlockComments then commentDiagnostics text else [])

end EditAssist
