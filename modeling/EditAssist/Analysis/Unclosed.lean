import EditAssist.Diagnostic
import EditAssist.LineIndex
import EditAssist.Text.Find
import EditAssist.Text.Split
import EditAssist.Token.Lexer

/-! Strings and block comments that nothing closes. A string is unclosed if it is the last token and
its quote does not come again. Block comments are followed line by line: on a line, what counts is
the first `/*` behind the end of a comment from an earlier line, and whether `*/` follows it. -/
namespace EditAssist.Analysis
open Text

/-- The offsets at which unclosed strings start. -/
def openStringsFrom : Nat → List Token → List Nat
  | _, [] => []
  | start, t :: ts =>
    let rest := openStringsFrom (start + bytes t.text) ts
    if t.isOpenString then start :: rest else rest

/-- The diagnostics on strings of a text that has the given tokens. -/
def stringDiagnostics (index : LineIndex) (ts : List Token) : List Diagnostic :=
  (openStringsFrom 0 ts).map fun o =>
    let (line, column) := index.locate o
    ⟨line, column, .error, "unclosed_string", "Unclosed string literal"⟩

/-- The text behind the first occurrence of `part`, with the byte offset at which it starts. -/
def behind (part : List Char) : Nat → List Char → Option (Nat × List Char)
  | offset, [] => if part.isEmpty then some (offset, []) else none
  | offset, c :: t =>
    if part.isPrefixOf (c :: t) then some (offset + bytes part, (c :: t).drop part.length)
    else behind part (offset + c.utf8Size) t

/-- The column of a comment that opens in a line, from `column` on, and is not closed in it. -/
def opensComment (column : Nat) (t : List Char) : Option Nat :=
  match behind ['/', '*'] column t with
  | none => none
  | some (after, rest) => if occursIn ['*', '/'] rest then none else some (after - 2)

/-- The place of the comment that is open behind the lines, which are numbered from `line` on;
`opened` is the place of one that is open before them. -/
def openCommentFrom : Nat → Option (Nat × Nat) → List (List Char) → Option (Nat × Nat)
  | _, opened, [] => opened
  | line, none, t :: ts => openCommentFrom (line + 1) ((opensComment 0 t).map (line, ·)) ts
  | line, some place, t :: ts =>
    match behind ['*', '/'] 0 t with
    | none => openCommentFrom (line + 1) (some place) ts
    | some (column, rest) =>
      openCommentFrom (line + 1) ((opensComment column rest).map (line, ·)) ts

/-- The diagnostics on the block comments of a text. -/
def commentDiagnostics (text : List Char) : List Diagnostic :=
  (openCommentFrom 1 none (splitOn '\n' text)).toList.map fun (line, column) =>
    ⟨line, column, .error, "unclosed_comment", "Unclosed multi-line comment"⟩

example : openCommentFrom 1 none ["a /*".toList, "*/ /*".toList] = some (2, 3) := by decide

end EditAssist.Analysis
