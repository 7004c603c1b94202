import EditAssist.Pattern.Brackets
import EditAssist.Unicode.Letter

/-! Reading the pattern notation. The reader goes through the pattern once and keeps a stack of the
groups and alternatives that are still open. Beside each expression it keeps how deep its notation
nests, because patterns that nest too deeply are refused. -/
namespace EditAssist.Pattern
open Unicode

/-- An expression of the pattern with the nesting of its notation. A setting of flags stands among
the items of a sequence but cannot be repeated. -/
structure Item where
  expr : Expr
  depth : Nat := 0
  repeatable : Bool := true

/-- Items one after another, given last first. -/
def Item.sequence (items : List Item) : Item :=
  match items with
  | [item] => ⟨item.expr, item.depth, true⟩
  | _ =>
    ⟨.sequence (items.reverse.map (·.expr)),
      if items.isEmpty then 0 else items.foldl (fun d i => max d i.depth) 0 + 1, true⟩

/-- Alternatives, given last first. -/
def Item.choice (items : List Item) : Item :=
  match items with
  | [item] => item
  | _ => ⟨.choice (items.reverse.map (·.expr)), items.foldl (fun d i => max d i.depth) 0 + 1, true⟩

/-- What is waiting while a group is read: the items before the group, the flags to go back to and
the number of the group, if it has one; or the alternatives read so far. -/
inductive Frame where
  | group (before : List Item) (flags : Flags) (number : Option Nat)
  | alternatives (done : List Item)

structure ReadState where
  rest : List Char
  flags : Flags
  items : List Item := []
  frames : List Frame := []
  names : List (List Char) := []
  groups : Nat := 0

namespace ReadState

def push (s : ReadState) (item : Item) (rest : List Char) : ReadState :=
  { s with items := item :: s.items, rest := rest }

end ReadState

/-- Whether a character may stand in the name of a group. -/
def isNameChar (first : Bool) (c : Char) : Bool :=
  if first then c = '_' || isAlphabetic c
  else c = '_' || c = '.' || c = '[' || c = ']' || isAlphanumeric c

/-- The name of a group, up to the closing angle bracket. -/
def readName (cs : List Char) : Option (List Char × List Char) :=
  let name := cs.takeWhile (· != '>')
  match name, cs.drop name.length with
  | c :: more, '>' :: rest =>
    if isNameChar true c && more.all (isNameChar false) then some (name, rest) else none
  | _, _ => none

/-- Flag letters up to a closing parenthesis or a colon: the new flags, whether any letter or sign
was there, and the rest from the closing character on. No letter and no sign may come twice, and a
sign needs a letter after it. -/
def readFlags (f : Flags) (value : Bool) (seen : List Char) :
    List Char → Option (Flags × Bool × List Char)
  | [] => none
  | c :: cs =>
    if c = ')' || c = ':' then
      if seen.head? = some '-' then none else some (f, !seen.isEmpty, c :: cs)
    else if seen.contains c then none
    else if c = '-' then readFlags f false (c :: seen) cs
    else match f.set? c value with
      | none => none
      | some f' => readFlags f' value (c :: seen) cs

/-- An opening parenthesis has been taken: a setting of flags or the start of a group. -/
def openGroup (s : ReadState) (cs : List Char) : Option ReadState :=
  let openWith (flags : Flags) (numbered : Bool) (rest : List Char) : ReadState :=
    { s with
      rest := rest, flags := flags, items := []
      groups := if numbered then s.groups + 1 else s.groups
      frames := .group s.items s.flags (if numbered then some s.groups else none) :: s.frames }
  let openNamed (rest : List Char) : Option ReadState :=
    match readName rest with
    | none => none
    | some (name, left) =>
      if s.names.contains name then none
      else some { openWith s.flags true left with names := name :: s.names }
  match s.flags.skip cs with
  | '?' :: '=' :: _ => none
  | '?' :: '!' :: _ => none
  | '?' :: '<' :: '=' :: _ => none
  | '?' :: '<' :: '!' :: _ => none
  | '?' :: 'P' :: '<' :: rest => openNamed rest
  | '?' :: '<' :: rest => openNamed rest
  | '?' :: rest =>
    match readFlags s.flags true [] rest with
    | some (flags, some?, ')' :: left) =>
      if some? then some { s.push ⟨.empty, 0, false⟩ left with flags := flags } else none
    | some (flags, _, ':' :: left) => some (openWith flags false left)
    | _ => none
  | rest => some (openWith s.flags true rest)

/-- A group item from what stands between its parentheses. -/
def groupItem (number : Option Nat) (body : Item) : Item :=
  ⟨match number with
    | some n => .group n body.expr
    | none => body.expr, body.depth + 1, true⟩

/-- A closing parenthesis has been taken. -/
def closeGroup (s : ReadState) (rest : List Char) : Option ReadState :=
  match s.frames with
  | .group before flags number :: frames =>
    some { s with
      rest := rest, flags := flags, frames := frames
      items := groupItem number (.sequence s.items) :: before }
  | .alternatives done :: .group before flags number :: frames =>
    some { s with
      rest := rest, flags := flags, frames := frames
      items := groupItem number (.choice (.sequence s.items :: done)) :: before }
  | _ => none

/-- A bar has been taken: what was read becomes an alternative. -/
def nextAlternative (s : ReadState) (rest : List Char) : ReadState :=
  match s.frames with
  | .alternatives done :: frames =>
    { s with rest := rest, items := [], frames := .alternatives (.sequence s.items :: done) :: frames }
  | frames =>
    { s with rest := rest, items := [], frames := .alternatives [.sequence s.items] :: frames }

/-- Repeat the last item. -/
def repeatLast (s : ReadState) (least : Nat) (most : Option Nat) (greedy : Bool)
    (rest : List Char) : Option ReadState :=
  match s.items with
  | item :: items =>
    if item.repeatable then
      let greedy := greedy != s.flags.lazy
      some { s with
        rest := rest
        items := ⟨.repeated least most greedy item.expr, item.depth + 1, true⟩ :: items }
    else none
  | [] => none

/-- A question mark right after a repetition makes it prefer fewer rounds. -/
def readGreed (cs : List Char) : Bool × List Char :=
  match cs with
  | '?' :: rest => (false, rest)
  | _ => (true, cs)

/-- The largest count of a repetition. -/
def maxCount : Nat := 4294967295

/-- The digits of a count; blanks around them mean nothing. -/
def readDigits (f : Flags) : (fuel : Nat) → Option Nat → List Char → Option Nat × List Char
  | 0, v, cs => (v, cs)
  | _ + 1, v, [] => (v, [])
  | n + 1, v, c :: cs =>
    if c.isDigit then readDigits f n (some (10 * v.getD 0 + (c.toNat - '0'.toNat))) (f.skip cs)
    else (v, c :: cs)

/-- A count: `none` inside for no digits at all. -/
def readCount (f : Flags) (cs : List Char) : Option (Option Nat × List Char) :=
  let (v, rest) := readDigits f (cs.length + 1) none (cs.dropWhile isBlank)
  if v.getD 0 > maxCount then none else some (v, f.skip (rest.dropWhile isBlank))

/-- A counted repetition; its opening brace has been taken. -/
def readRepeat (s : ReadState) (cs : List Char) : Option ReadState := do
  let f := s.flags
  let finish (least : Nat) (most : Option Nat) (rest : List Char) : Option ReadState :=
    if (most.getD least) < least then none
    else
      let (greedy, left) := readGreed (f.skip rest)
      repeatLast s least most greedy left
  let (least, rest) ← readCount f (f.skip cs)
  match rest with
  | '\x7d' :: left => finish (← least) least left
  | ',' :: rest =>
    match f.skip rest with
    | '\x7d' :: left => finish (← least) none left
    | rest =>
      let least ← least
      let (most, rest) ← readCount f rest
      match rest with
      | '\x7d' :: left => finish least (some (← most)) left
      | _ => none
  | _ => none

/-- One turn: the first character has been taken from the rest. -/
def readOne (s : ReadState) (c : Char) (rest : List Char) : Option ReadState :=
  match c with
  | '(' => openGroup s rest
  | ')' => closeGroup s rest
  | '|' => some (nextAlternative s rest)
  | '[' => (readClass s.flags rest).map fun (members, depth, left) => s.push ⟨.ofSet members, depth, true⟩ left
  | '?' => let (greedy, left) := readGreed rest; repeatLast s 0 (some 1) greedy left
  | '*' => let (greedy, left) := readGreed rest; repeatLast s 0 none greedy left
  | '+' => let (greedy, left) := readGreed rest; repeatLast s 1 none greedy left
  | '\x7b' => readRepeat s rest
  | '.' => s.flags.dot.map fun e => s.push ⟨e, 0, true⟩ rest
  | '^' => some (s.push ⟨.look s.flags.caret, 0, true⟩ rest)
  | '$' => some (s.push ⟨.look s.flags.dollar, 0, true⟩ rest)
  | '\\' =>
    (readEscape s.flags rest).map fun (atom, left) =>
      match atom with
      | .literal c => s.push ⟨s.flags.literal c, 0, true⟩ left
      | .set members => s.push ⟨.ofSet members, 0, true⟩ left
      | .look condition => s.push ⟨.look condition, 0, true⟩ left
  | c => some (s.push ⟨s.flags.literal c, 0, true⟩ rest)

/-- Read to the end of the pattern. Every turn takes at least one character. -/
def readAll : (fuel : Nat) → ReadState → Option ReadState
  | 0, _ => none
  | n + 1, s =>
    match s.flags.skip s.rest with
    | [] => some s
    | c :: rest =>
      match readOne s c rest with
      | none => none
      | some s' => readAll n s'

/-- Read a whole pattern; every group must have been closed. -/
def read (pattern : List Char) : Option Item := do
  let s ← readAll (pattern.length + 1) { rest := pattern, flags := {} }
  match s.frames with
  | [] => some (.sequence s.items)
  | [.alternatives done] => some (.choice (.sequence s.items :: done))
  | _ => none

end EditAssist.Pattern
