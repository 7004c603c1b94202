import EditAssist.Unicode.CodeSet

/-! Pattern expressions: what a pattern says once its notation has been read. Case folding, line
modes and the choice of alphabet have been worked into the sets and conditions, so an expression
needs no flags. -/
namespace EditAssist.Pattern
open Unicode

/-- A condition on the place between two characters. The Boolean of a word condition says whether
words are made of the letters of every script or of ASCII letters only. -/
inductive Look where
  | textStart
  | textEnd
  | lineStart
  | lineEnd
  | lineStartReturn
  | lineEndReturn
  | wordEdge (wide : Bool)
  | wordInside (wide : Bool)
  | wordStart (wide : Bool)
  | wordEnd (wide : Bool)
  | wordStartHalf (wide : Bool)
  | wordEndHalf (wide : Bool)
  deriving DecidableEq, Repr

/-- Sequences and choices have two members each, so a longer one is a chain that goes on to the
right. -/
inductive Expr where
  | empty
  /-- The given characters, one after another. -/
  | text (chars : List Char)
  /-- One character of a set. -/
  | one (set : CodeSet)
  | look (condition : Look)
  /-- A group in parentheses. Groups are numbered as they open, so no two of them are equal. -/
  | group (number : Nat) (body : Expr)
  | seq (first second : Expr)
  /-- Either side; the left one is preferred. -/
  | alt (left right : Expr)
  /-- At least `least` and at most `most` rounds; more rounds are preferred when `greedy`. -/
  | rep (least : Nat) (most : Option Nat) (greedy : Bool) (body : Expr)
  deriving DecidableEq, Repr

namespace Expr

/-- Whether the expression can match without taking a character. -/
def nullable : Expr → Bool
  | empty => true
  | text cs => cs.isEmpty
  | one _ => false
  | look _ => true
  | group _ e => e.nullable
  | seq a b => a.nullable && b.nullable
  | alt a b => a.nullable || b.nullable
  | rep least _ _ e => least == 0 || e.nullable

/-- Whether the expression never takes a character. -/
def idle : Expr → Bool
  | empty => true
  | text cs => cs.isEmpty
  | one _ => false
  | look _ => true
  | group _ e => e.idle
  | seq a b => a.idle && b.idle
  | alt a b => a.idle && b.idle
  | rep _ most _ e => most == some 0 || e.idle

/-- Whether the expression asks somewhere for a character of an empty set. -/
def hopeless : Expr → Bool
  | one s => s.isEmpty
  | group _ e => e.hopeless
  | seq a b => a.hopeless || b.hopeless
  | alt a b => a.hopeless || b.hopeless
  | rep _ _ _ e => e.hopeless
  | _ => false

/-- Whether every match starts at the start of the text, as far as the conditions in front of the
first character tell. -/
def atStart : Expr → Bool
  | look condition => condition = .textStart
  | group _ e => e.atStart
  | seq a b => a.atStart || (a.idle && b.atStart)
  | alt a b => a.atStart && b.atStart
  | rep least _ _ e => least != 0 && e.atStart
  | _ => false

/-- Whether every match ends at the end of the text, as far as the conditions behind the last
character tell. -/
def atEnd : Expr → Bool
  | look condition => condition = .textEnd
  | group _ e => e.atEnd
  | seq a b => b.atEnd || (b.idle && a.atEnd)
  | alt a b => a.atEnd && b.atEnd
  | rep least _ _ e => least != 0 && e.atEnd
  | _ => false

/-- One character of a set. A set with a single character stands for that character, and code points
that are no characters do not count. -/
def ofSet (s : CodeSet) : Expr :=
  let s := s.characters
  match s.only? with
  | some n => text [Char.ofNat n]
  | none => one s

/-- A repetition in its simplest form: an expression that takes nothing needs at most one round, no
round at all is the empty expression, and a single round is the expression itself. -/
def repeated (least : Nat) (most : Option Nat) (greedy : Bool) (e : Expr) : Expr :=
  let least' := if e.idle then min least 1 else least
  let most' := if e.idle then some (min (most.getD 1) 1) else most
  if least' = 0 ∧ most' = some 0 then empty
  else if least' = 1 ∧ most' = some 1 then e
  else rep least' most' greedy e

/-- The members of a sequence, in order. -/
def parts : Expr → List Expr
  | empty => []
  | seq a b => a.parts ++ b.parts
  | e => [e]

/-- Join texts that follow one another. -/
def joinTexts : List Expr → List Expr
  | [] => []
  | text cs :: es =>
    match joinTexts es with
    | text ds :: rest => text (cs ++ ds) :: rest
    | rest => text cs :: rest
  | e :: es => e :: joinTexts es

/-- The sequence with the given members. -/
def ofParts : List Expr → Expr
  | [] => empty
  | [e] => e
  | e :: es => seq e (ofParts es)

/-- The expressions of a list one after another, without sequences inside the sequence. -/
def sequence (es : List Expr) : Expr := ofParts (joinTexts (es.flatMap parts))

/-- The alternatives of a choice, the most preferred first. -/
def branches : Expr → List Expr
  | alt a b => a.branches ++ b.branches
  | e => [e]

/-- The choice between the given alternatives. No alternative at all is a character of no set. -/
def ofBranches : List Expr → Expr
  | [] => one .empty
  | [e] => e
  | e :: es => alt e (ofBranches es)

/-- The character that the expression stands for, if it is a single one. -/
def letter? : Expr → Option Char
  | text [c] => some c
  | _ => none

def set? : Expr → Option CodeSet
  | one s => some s
  | _ => none

/-- The characters of an expression that is a text. -/
def text? : Expr → Option (List Char)
  | text cs => some cs
  | _ => none

/-- What two lists have in common at their start. -/
def commonLead : List Expr → List Expr → List Expr
  | a :: as, b :: bs => if a = b then a :: commonLead as bs else []
  | _, _ => []

/-- The members of a sequence of at least two; nothing for any other expression. -/
def steps : Expr → List Expr
  | seq a b => (seq a b).parts
  | _ => []

/-- The members that all alternatives, sequences of at least two, have in common at their start. -/
def sharedLead : List Expr → List Expr
  | [] => []
  | e :: es => es.foldl (fun lead e' => commonLead lead e'.steps) e.steps

/-- How many nodes an expression has. -/
def nodes : Expr → Nat
  | group _ e => e.nodes + 1
  | seq a b => a.nodes + b.nodes + 1
  | alt a b => a.nodes + b.nodes + 1
  | rep _ _ _ e => e.nodes + 1
  | _ => 1

/-- A choice between alternatives in its simplest form: single characters, or sets, are joined to
one set, and what all alternatives start with is put in front of the choice. Every turn takes at
least one node away from each alternative. -/
def choiceWithin : (fuel : Nat) → List Expr → Expr
  | fuel, es =>
    let bs := es.flatMap branches
    match bs with
    | [] => one .empty
    | [e] => e
    | _ =>
      match bs.mapM letter?, bs.mapM set? with
      | some cs, _ => ofSet (.ofRanges (cs.map fun c => (c.toNat, c.toNat)))
      | _, some ss => ofSet (.unions ss)
      | none, none =>
        match fuel, sharedLead bs with
        | n + 1, a :: lead =>
          let rests := bs.map fun b => ofParts (b.parts.drop (lead.length + 1))
          sequence (a :: lead ++ [choiceWithin n rests])
        | _, _ => ofBranches bs

/-- The expressions of a list as alternatives, the earlier preferred. -/
def choice (es : List Expr) : Expr := choiceWithin (es.foldl (fun n e => n + e.nodes) 0) es

example : choice [text ['1'], text ['2']] = one (.range 0x31 0x32) := by cbv
example : choice [seq (look .textStart) (text ['1']), seq (look .textStart) (text ['1', '2'])] =
    seq (look .textStart) (alt (text ['1']) (text ['1', '2'])) := by cbv

end Expr
end EditAssist.Pattern
