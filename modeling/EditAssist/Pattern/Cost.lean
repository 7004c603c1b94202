import EditAssist.Pattern.Expr
import EditAssist.Pattern.Layout

/-! How much room the automaton of a pattern takes. The automaton reads bytes, forwards to find
where a match ends and backwards to find where it starts, and a pattern is refused if one of the two
would take too much room. A huge repetition is laid out only until the room is used up. -/
namespace EditAssist.Pattern

/-- The direction in which an automaton reads the text. -/
inductive Direction where
  | forwards
  | backwards
  deriving DecidableEq, Repr

namespace Cost

/-- Lay out a set of characters; a set of ASCII characters needs one choice by a byte. -/
def placeSet (d : Direction) (s : Unicode.CodeSet) : Layout → Layout :=
  if s.isAscii then fun m => (m.plain 1).switch s.ranges.size
  else
    let seqs := Encoding.ofSet s
    match d with
    | .forwards => Layout.setForwards seqs
    | .backwards => Layout.setBackwards seqs

/-- The bytes of a text in the order in which they are read. -/
def readBytes (d : Direction) (cs : List Char) : List Nat :=
  match d with
  | .forwards => Encoding.bytes cs
  | .backwards => (Encoding.bytes cs).reverse

/-- Put together the alternatives of an expression, each given by how it is laid out. Texts share
what they start with; other alternatives meet in a fork, which is added behind the second. -/
def placeBranches (d : Direction) (e : Expr) (branches : List (Layout → Layout)) (m : Layout) :
    Layout :=
  match e.branches.mapM Expr.text?, branches with
  | _, [] => m
  | _, [place] => place m
  | some texts, _ => m.choice (texts.map (readBytes d))
  | none, first :: second :: others =>
    others.foldl (fun m place => (place m).widen 1) (((second (first m)).plain 1).fork 2)

/-- Lay out a repetition of what `body` lays out. Copies that may be left out have a fork each; a
body that can match nothing, or never matches, has its loop behind it. -/
def placeRep (least : Nat) (most : Option Nat) (advances : Bool) (body : Layout → Layout)
    (m : Layout) : Layout :=
  match most with
  | none =>
    if least ≠ 0 then (Layout.copies body least m).fork 2
    else if advances then body (m.fork 2)
    else (((body m).fork 2).fork 2).plain 1
  | some most =>
    if least = 0 ∧ most = 1 then (body (m.fork 2)).plain 1
    else
      let m := if least = 0 then m.plain 1 else Layout.copies body least m
      if least = most then m
      else Layout.copies (fun m => body (m.fork 2)) (most - least) (m.plain 1)

/-- How each alternative of an expression is laid out. -/
def placers (d : Direction) : Expr → List (Layout → Layout)
  | .empty => [fun m => m.plain 1]
  | .text cs => [fun m => m.plain (Encoding.bytes cs).length]
  | .one s => [placeSet d s]
  | .look _ => [fun m => m.plain 1]
  | .group _ e =>
    let body := placeBranches d e (placers d e)
    match d with
    | .forwards => [fun m => (body (m.plain 1)).plain 1]
    | .backwards => [body]
  | .seq a b =>
    let first := placeBranches d a (placers d a)
    let second := placeBranches d b (placers d b)
    match d with
    | .forwards => [fun m => second (first m)]
    | .backwards => [fun m => first (second m)]
  | .alt a b => placers d a ++ placers d b
  | .rep least most _ e =>
    [placeRep least most (!e.nullable && !e.hopeless) (placeBranches d e (placers d e))]

/-- Lay out an expression. -/
def place (d : Direction) (e : Expr) : Layout → Layout := placeBranches d e (placers d e)

/-- The automaton of a whole pattern. A pattern that is not tied to the end of the text from which
it is read has a loop in front that passes over bytes. Forwards the whole match is a group. -/
def layout (d : Direction) (e : Expr) : Layout :=
  let start (tied : Bool) : Layout :=
    if tied then ({} : Layout).plain 1 else ((({} : Layout).fork 2).plain 1).switch 1
  match d with
  | .forwards => ((place d e ((start e.atStart).plain 1)).plain 1).plain 1
  | .backwards => (place d e (start e.atEnd)).plain 1

/-- Whether the automaton of an expression fits in both directions. -/
def fits (e : Expr) : Bool := !(layout .forwards e).full && !(layout .backwards e).full

end Cost
end EditAssist.Pattern
