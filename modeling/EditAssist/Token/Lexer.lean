import EditAssist.Language
import EditAssist.Text.Words
import EditAssist.Token

/-! Cutting a source text into tokens. The character at hand, with what follows it, decides the
shape of the token, the shape decides how far the token reaches, and the text of the token decides
its category. A comment or string that nothing closes reaches to the end of the text. -/
namespace EditAssist.Token
open Text Unicode

/-- The shapes a token can have, in the order in which they are tried. -/
inductive Shape where
  | lineComment
  | blockComment
  | quoted
  | number
  | word
  | operator
  | other
  deriving DecidableEq, Repr

def isOperator (c : Char) : Bool := "+-*/=<>!&|^%~".toList.contains c

def isNumberChar (c : Char) : Bool := c.isDigit || c = '.' || c = 'f' || c = 'L'

/-- The shape of the token that starts with `c` and goes on into `t`. -/
def shape (lang : Language) (c : Char) (t : List Char) : Shape :=
  if lang.lineComment.toList.isPrefixOf (c :: t) then .lineComment
  else if lang.hasBlockComments && ['/', '*'].isPrefixOf (c :: t) then .blockComment
  else if c = '"' || c = '\'' then .quoted
  else if c.isDigit then .number
  else if isAlphabetic c || c = '_' then .word
  else if isOperator c then .operator
  else .other

/-- How many characters there are up to and with the first `*/`; all if there is none. -/
def closeReach : List Char → Nat
  | [] => 0
  | '*' :: '/' :: _ => 2
  | _ :: t => closeReach t + 1

/-- How many characters there are up to and with the first `quote` that no backslash escapes. A
backslash escapes the character after it; `escaped` says whether one stands before the text. -/
def quoteReach? (quote : Char) : (escaped : Bool) → List Char → Option Nat
  | _, [] => none
  | true, _ :: t => (quoteReach? quote false t).map (· + 1)
  | false, c :: t =>
    if c = '\\' then (quoteReach? quote true t).map (· + 1)
    else if c = quote then some 1
    else (quoteReach? quote false t).map (· + 1)

/-- The byte offset right behind the quote that closes the string which `quote` opens at `start`. -/
def closingQuote? (text : List Char) (start : Nat) (quote : Char) : Option Nat :=
  (dropBytes (start + quote.utf8Size) text).bind fun body =>
    (quoteReach? quote false body).map fun n => start + quote.utf8Size + bytes (body.take n)

/-- How many characters of `t` belong to the token that starts with `c`. -/
def reach (c : Char) (t : List Char) : Shape → Nat
  | .lineComment => (t.takeWhile (· != '\n')).length
  | .blockComment => closeReach (t.drop 1) + 1
  | .quoted => (quoteReach? c false t).getD t.length
  | .number => (t.takeWhile isNumberChar).length
  | .word => (t.takeWhile isWordChar).length
  | .operator | .other => 0

/-- The category of a word: reserved, called, capitalized or plain. -/
def wordCategory (keywords : List String) (word rest : List Char) : Category :=
  if keywords.contains (String.ofList word) then .keyword
  else if rest.head? = some '(' then .function
  else if (word.head?.map isUppercase).getD false then .type
  else .normal

/-- The category of a token with the given text before `rest`. -/
def categoryOf (keywords : List String) (word rest : List Char) : Shape → Category
  | .lineComment | .blockComment => .comment
  | .quoted => .string
  | .number => .number
  | .word => wordCategory keywords word rest
  | .operator => .operator
  | .other => .normal

/-- The tokens of a text. -/
def tokenize (lang : Language) (keywords : List String) (text : List Char) : List Token :=
  match text with
  | [] => []
  | c :: t =>
    let s := shape lang c t
    let n := reach c t s
    let word := c :: t.take n
    let rest := t.drop n
    ⟨categoryOf keywords word rest s, word⟩ :: tokenize lang keywords rest
termination_by text.length
decreasing_by simp only [List.length_drop, List.length_cons]; omega

@[simp] theorem tokenize_nil (lang : Language) (keywords : List String) :
    tokenize lang keywords [] = [] := by rw [tokenize]

/-- The tokens hold every character of the text, in order. -/
theorem flatMap_text_tokenize (lang : Language) (keywords : List String) (text : List Char) :
    (tokenize lang keywords text).flatMap (·.text) = text := by
  fun_induction tokenize lang keywords text with
  | case1 => rfl
  | case2 c t s n word rest ih => simp [ih, word, rest]

/-- Whether a token is a string that nothing closes. Such a token is the last one of its text. -/
def isOpenString (t : Token) : Bool :=
  match t.category, t.text with
  | .string, q :: body => (quoteReach? q false body).isNone
  | _, _ => false

example : (tokenize .c [] "x/*".toList).map (·.text) = [['x'], ['/', '*']] := by cbv

end EditAssist.Token
