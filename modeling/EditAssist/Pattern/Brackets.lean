import EditAssist.Pattern.Escape

/-! Bracketed classes of the pattern notation: characters, ranges, named classes, classes within
classes, and the operators `&&`, `--` and `~~` between the sets of a class, which bind more weakly
than juxtaposition and associate to the left. -/
namespace EditAssist.Pattern
open Unicode

/-- The items of a class read so far: their union, their number and how deep they nest. -/
structure ClassItems where
  set : CodeSet := .empty
  count : Nat := 0
  depth : Nat := 0

namespace ClassItems

def add (items : ClassItems) (s : CodeSet) (depth : Nat) : ClassItems :=
  ⟨items.set.union s, items.count + 1, max items.depth depth⟩

/-- Several items nest one level deeper than the deepest of them. -/
def nesting (items : ClassItems) : Nat :=
  if items.count ≤ 1 then items.depth else items.depth + 1

end ClassItems

inductive ClassOp where
  | inter
  | diff
  | symmDiff
  deriving DecidableEq

def ClassOp.apply : ClassOp → CodeSet → CodeSet → CodeSet
  | inter => CodeSet.inter
  | diff => CodeSet.diff
  | symmDiff => CodeSet.symmDiff

/-- What is waiting while a class is read: an open bracket with the items around it, or an operator
with its left side. -/
inductive ClassFrame where
  | opened (negated : Bool) (around : ClassItems)
  | operator (op : ClassOp) (left : CodeSet) (depth : Nat)

/-- The set read so far, with an operator that waits for it applied. -/
def closeOperator (f : Flags) (right : CodeSet) (depth : Nat) :
    List ClassFrame → CodeSet × Nat × List ClassFrame
  | .operator op left leftDepth :: frames =>
    (op.apply (f.folded left) (f.folded right), max leftDepth depth + 1, frames)
  | frames => (right, depth, frames)

/-- Leading hyphens of a class stand for themselves. -/
def readHyphens (f : Flags) : (fuel : Nat) → ClassItems → List Char → ClassItems × List Char
  | n + 1, items, '-' :: cs => readHyphens f n (items.add (.singleton 0x2D) 0) (f.skip cs)
  | _, items, cs => (items, cs)

/-- What may follow an opening bracket: a negation, hyphens, or a closing bracket that stands for
itself. The pattern must not end here. -/
def readClassStart (f : Flags) (cs : List Char) : Option (Bool × ClassItems × List Char) :=
  let cs := f.skip cs
  let (negated, cs) :=
    match cs with
    | '^' :: rest => (true, f.skip rest)
    | _ => (false, cs)
  let (items, cs) := readHyphens f cs.length {} cs
  let (items, cs) :=
    match cs with
    | ']' :: rest => if items.count = 0 then (items.add (.singleton 0x5D) 0, f.skip rest) else (items, cs)
    | _ => (items, cs)
  if cs.isEmpty then none else some (negated, items, cs)

/-- A class such as `[:alpha:]`, from its opening bracket on. Anything else there is no error but
opens a class within the class. -/
def readPosix (f : Flags) (cs : List Char) : Option (Option CodeSet × List Char) :=
  match cs with
  | '[' :: ':' :: rest =>
    let (negated, rest) :=
      match rest with
      | '^' :: more => (true, more)
      | _ => (false, rest)
    let name := rest.takeWhile (· != ':')
    match rest.drop name.length with
    | ':' :: ']' :: left =>
      (Flags.posix? (String.ofList name)).map fun s => (f.finish negated s, left)
    | _ => none
  | _ => none

/-- One character or class inside brackets. -/
def readClassAtom (f : Flags) (cs : List Char) : Option (Atom × List Char) :=
  match cs with
  | [] => none
  | '\\' :: rest => readEscape f rest
  | c :: rest => some (.literal c, rest)

/-- A character of a class; without the wide alphabet it must be an ASCII one. -/
def classMember (f : Flags) (c : Char) : Option Nat :=
  if f.wide || c.toNat < 0x80 then some c.toNat else none

/-- The character that decides whether a hyphen before it makes a range. In the verbose mode it is
looked for behind blanks, and once behind the sign of a comment and the blanks after that sign, so
that the text of a comment can decide too. -/
def rangeCue? (f : Flags) (cs : List Char) : Option Char :=
  if f.verbose then
    match cs.dropWhile isBlank with
    | '#' :: rest => (rest.dropWhile isBlank).head?
    | rest => rest.head?
  else cs.head?

/-- A single item or a range. A hyphen before a closing bracket or another hyphen makes no range. -/
def readClassItem (f : Flags) (cs : List Char) : Option (CodeSet × List Char) := do
  let (first, cs) ← readClassAtom f cs
  let single : Option CodeSet :=
    match first with
    | .literal c => (classMember f c).map .singleton
    | .set s => some s
    | .look _ => none
  match f.skip cs with
  | [] => none
  | '-' :: rest =>
    if rangeCue? f rest = some ']' || rangeCue? f rest = some '-' then
      return (← single, '-' :: rest)
    else
      let (second, left) ← readClassAtom f (f.skip rest)
      match first, second with
      | .literal a, .literal b =>
        let lo ← classMember f a
        let hi ← classMember f b
        if lo ≤ hi then return (.range lo hi, left) else none
      | _, _ => none
  | rest => return (← single, rest)

/-- Read a class from inside its opening bracket to past its closing one. Every turn takes at least
one character, so the length of the rest bounds the turns. -/
def readClassBody (f : Flags) :
    (fuel : Nat) → ClassItems → List ClassFrame → List Char → Option (CodeSet × Nat × List Char)
  | 0, _, _, _ => none
  | n + 1, items, frames, cs =>
    match f.skip cs with
    | [] => none
    | '[' :: rest =>
      match readPosix f ('[' :: rest) with
      | some (s, left) =>
        match s with
        | none => none
        | some s => readClassBody f n (items.add s 0) frames left
      | none =>
        match readClassStart f rest with
        | none => none
        | some (negated, inner, left) => readClassBody f n inner (.opened negated items :: frames) left
    | ']' :: rest =>
      let (s, depth, frames) := closeOperator f items.set items.nesting frames
      match frames with
      | [.opened negated _] => (f.finish negated s).map fun s => (s, depth + 1, rest)
      | .opened negated around :: outer =>
        match f.finish negated s with
        | none => none
        | some s => readClassBody f n (around.add s (depth + 1)) outer rest
      | _ => none
    | '&' :: '&' :: rest => operate n items frames .inter rest
    | '-' :: '-' :: rest => operate n items frames .diff rest
    | '~' :: '~' :: rest => operate n items frames .symmDiff rest
    | rest =>
      match readClassItem f rest with
      | none => none
      | some (s, left) => readClassBody f n (items.add s 0) frames left
where
  operate (n : Nat) (items : ClassItems) (frames : List ClassFrame) (op : ClassOp)
      (rest : List Char) : Option (CodeSet × Nat × List Char) :=
    let (s, depth, frames) := closeOperator f items.set items.nesting frames
    readClassBody f n {} (.operator op s depth :: frames) rest

/-- Read a class after its opening bracket; gives its members and how deep it nests. -/
def readClass (f : Flags) (cs : List Char) : Option (CodeSet × Nat × List Char) :=
  match readClassStart f cs with
  | none => none
  | some (negated, items, rest) =>
    readClassBody f (rest.length + 1) items [.opened negated {}] rest

end EditAssist.Pattern
