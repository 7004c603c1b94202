import EditAssist.Highlighter
import EditAssist.Text.Width

/-! What goes to the terminal: a text in its colours, reports of diagnostics, and their number. With
colours off, styles leave no trace. -/
namespace EditAssist.Screen
open Text

/-- A control sequence that selects the given rendition. -/
def sgr (parameters : String) : List Char := '\x1b' :: '[' :: parameters.toList ++ ['m']

def foreground (c : Color) : List Char :=
  match c.code? with
  | none => []
  | some n => sgr ("38;5;" ++ toString n)

def background (c : Color) : List Char :=
  match c.code? with
  | none => []
  | some n => sgr ("48;5;" ++ toString n)

/-- What turns a style on. -/
def styleOn (s : Style) : List Char :=
  foreground s.fg ++ background s.bg ++ (if s.bold then sgr "1" else []) ++
    (if s.italic then sgr "3" else [])

/-- What turns every style off: attributes, then colours. -/
def styleOff : List Char := sgr "0" ++ sgr "0"

/-- A text in a style. -/
def painted (color : Bool) (s : Style) (t : List Char) : List Char :=
  if t.isEmpty || !color || s.isPlain then t else styleOn s ++ t ++ styleOff

/-- Pieces of text in a style, with plain newlines between them. -/
def paintedLines (color : Bool) (s : Style) : List (List Char) → List Char
  | [] => []
  | [p] => painted color s p
  | p :: ps => painted color s p ++ '\n' :: paintedLines color s ps

/-- The style of a token at a byte offset: the style of its category, on the background of the first
overlay that covers the offset. -/
def tokenStyle (os : List Overlay) (offset : Nat) (category : Category) : Style :=
  match os.find? (·.extent.contains offset) with
  | none => category.style
  | some o => { category.style with bg := o.style.bg }

/-- Tokens that lie one after another from a byte offset on, in their styles. -/
def tokensFrom (color : Bool) (os : List Overlay) : Nat → List Token → List Char
  | _, [] => []
  | offset, t :: ts =>
    paintedLines color (tokenStyle os offset t.category) (splitOn '\n' t.text) ++
      tokensFrom color os (offset + bytes t.text) ts

/-- A text in its colours; a last line without an ending gets one. -/
def buffer (color : Bool) (os : List Overlay) (text : List Char) (ts : List Token) : List Char :=
  tokensFrom color os 0 ts ++
    if text.isEmpty || text.getLast? = some '\n' then [] else ['\n']

/-- The line of a diagnostic with a caret below its column. -/
def excerpt (color : Bool) (line : List Char) (d : Diagnostic) : List Char :=
  let before := (takeBytes d.column line).getD line
  "   | ".toList ++ line ++ "\n   | ".toList ++ List.replicate (width before) ' ' ++
    painted color d.severity.reportStyle ['^'] ++ ['\n']

/-- The report of a diagnostic on a text that was read from a path. -/
def report (color : Bool) (path text : List Char) (index : LineIndex) (d : Diagnostic) : List Char :=
  painted color d.severity.reportStyle d.severity.name.toList ++
    (": " ++ d.message ++ " [" ++ d.kind ++ "]\n  --> ").toList ++ path ++
    (":" ++ toString d.line ++ ":" ++ toString (d.column + 1) ++ "\n").toList ++
    (match (index.lineRange text d.line).bind (·.slice? text) with
      | none => []
      | some line => excerpt color line d) ++
    (match d.suggestion with
      | none => []
      | some hint => ("   = help: " ++ hint ++ "\n").toList)

/-- How many diagnostics there are of each severity. -/
def summary (ds : List Diagnostic) : List Char :=
  let count (s : Severity) : String := toString (ds.countP (·.severity = s))
  (count .error ++ " error(s), " ++ count .warning ++ " warning(s), " ++ count .info ++
    " note(s)\n").toList

example : painted true { fg := .green } ['a'] = "\x1b[38;5;2ma\x1b[0m\x1b[0m".toList := by cbv
example : paintedLines false {} [['a'], ['b']] = ['a', '\n', 'b'] := rfl

end EditAssist.Screen
