/-! Search and replace. Occurrences are taken from left to right and do not overlap; an empty text
occurs nowhere. -/
namespace EditAssist.Search

/-- The pieces of a text between the occurrences of `c :: part`; `done` is what has been read of the
first piece, last character first. -/
def piecesFrom (c : Char) (part done text : List Char) : List (List Char) :=
  match text with
  | [] => [done.reverse]
  | d :: rest =>
    if (c :: part).isPrefixOf (d :: rest) then
      done.reverse :: piecesFrom c part [] (rest.drop part.length)
    else piecesFrom c part (d :: done) rest
termination_by text.length
decreasing_by
  · simp only [List.length_drop, List.length_cons]; omega
  · simp only [List.length_cons]; omega

/-- The pieces of a text between the occurrences of `find`. -/
def pieces (find text : List Char) : List (List Char) :=
  match find with
  | [] => [text]
  | c :: part => piecesFrom c part [] text

/-- How often a text occurs. -/
def count (find text : List Char) : Nat := (pieces find text).length - 1

/-- Put a text between the pieces of another; gives the result and how often it was put there. -/
def join (between : List Char) : List (List Char) → List Char × Nat
  | [] => ([], 0)
  | [p] => (p, 0)
  | p :: ps =>
    let (rest, n) := join between ps
    (p ++ between ++ rest, n + 1)

/-- Replace all occurrences; gives the new text and how many were replaced. -/
def replaceAll (find replacement text : List Char) : List Char × Nat :=
  join replacement (pieces find text)

@[simp] theorem replaceAll_nil (replacement text : List Char) :
    replaceAll [] replacement text = (text, 0) := rfl

example : replaceAll ['a', 'a'] ['b'] "aaa".toList = (['b', 'a'], 1) := by cbv

end EditAssist.Search
