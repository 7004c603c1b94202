import EditAssist.Style
import EditAssist.Text.Bytes

/-! Tokens: the pieces a source text is made of, each with its lexical category. The tokens of a
text hold all its characters in order; their spans are where they lie in it. -/
namespace EditAssist
open Text

inductive Category where
  | keyword
  | string
  | comment
  | number
  /-- A word right before an opening parenthesis. -/
  | function
  /-- A capitalized word. -/
  | type
  | operator
  | normal
  deriving DecidableEq, Repr

namespace Category

def all : List Category := [keyword, string, comment, number, function, type, operator, normal]

def name : Category → String
  | keyword => "keyword"
  | string => "string"
  | comment => "comment"
  | number => "number"
  | function => "function"
  | type => "type"
  | operator => "operator"
  | normal => "normal"

def style : Category → Style
  | comment => { fg := .brightBlack, italic := true }
  | string => { fg := .green }
  | number => { fg := .cyan }
  | keyword => { fg := .magenta, bold := true }
  | type => { fg := .yellow }
  | function => { fg := .blue }
  | operator => { fg := .brightWhite }
  | normal => {}

end Category

/-- A piece of text with its category. -/
structure Token where
  category : Category
  text : List Char
  deriving DecidableEq, Repr

/-- Where a token lies, in bytes. -/
structure Span extends Extent where
  category : Category
  deriving DecidableEq, Repr

namespace Token

/-- The spans of tokens that lie one after another from a byte offset on. -/
def spansFrom : Nat → List Token → List Span
  | _, [] => []
  | start, t :: ts => ⟨⟨start, start + bytes t.text⟩, t.category⟩ :: spansFrom (start + bytes t.text) ts

def spans (ts : List Token) : List Span := spansFrom 0 ts

@[simp] theorem spansFrom_nil (start : Nat) : spansFrom start [] = [] := rfl

@[simp] theorem spansFrom_cons (start : Nat) (t : Token) (ts : List Token) :
    spansFrom start (t :: ts) =
      ⟨⟨start, start + bytes t.text⟩, t.category⟩ :: spansFrom (start + bytes t.text) ts := rfl

end Token
end EditAssist
