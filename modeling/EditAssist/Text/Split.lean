/-! Cutting a text at separators. A text is a list of characters; the pieces of a cut keep every
character but the separators, in order, and an empty text is one empty piece. -/
namespace EditAssist.Text

/-- One step of `splitBy`, read from the right: a separator opens a new piece. -/
def splitStep (p : Char → Bool) (c : Char) : List (List Char) → List (List Char)
  | [] => if p c then [[], []] else [[c]]
  | w :: ws => if p c then [] :: w :: ws else (c :: w) :: ws

/-- The pieces of a text between the characters that satisfy `p`. -/
def splitBy (p : Char → Bool) (t : List Char) : List (List Char) :=
  t.foldr (splitStep p) [[]]

@[simp] theorem splitBy_nil (p : Char → Bool) : splitBy p [] = [[]] := rfl

@[simp] theorem splitBy_cons (p : Char → Bool) (c : Char) (t : List Char) :
    splitBy p (c :: t) = splitStep p c (splitBy p t) := rfl

theorem splitBy_ne_nil (p : Char → Bool) (t : List Char) : splitBy p t ≠ [] := by
  cases t with
  | nil => simp
  | cons c t =>
    rw [splitBy_cons]
    cases splitBy p t <;> simp only [splitStep] <;> split <;> simp

/-- The pieces between occurrences of one separator. -/
def splitOn (sep : Char) (t : List Char) : List (List Char) :=
  splitBy (· == sep) t

/-- The text before the first `sep` and the text after it, if there is one. -/
def splitOnce (sep : Char) : List Char → Option (List Char × List Char)
  | [] => none
  | c :: t =>
    if c = sep then some ([], t)
    else (splitOnce sep t).map fun (a, b) => (c :: a, b)

example : splitOn ',' "a,,b".toList = [['a'], [], ['b']] := by decide
example : splitOnce '=' "k=v=w".toList = some (['k'], ['v', '=', 'w']) := by decide

end EditAssist.Text
