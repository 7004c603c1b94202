import EditAssist.Pattern.Expr
import EditAssist.Unicode.Property

/-! Running a pattern. An expression becomes a program of small instructions, and the program runs
on a text with all its threads side by side, ordered by preference. So the time is bounded by the
product of the sizes of program and text, and of all matches that start first the most preferred
one is found. -/
namespace EditAssist.Pattern
open Unicode

/-- An instruction; the numbers are places in the program. -/
inductive Instr where
  | one (set : CodeSet) (next : Nat)
  | look (condition : Look) (next : Nat)
  | fork (preferred other : Nat)
  | accept

structure Program where
  code : Array Instr
  start : Nat

namespace Program

/-- A fork that tries the body of a loop before or after leaving it. -/
def loopFork (greedy : Bool) (body exit : Nat) : Instr :=
  if greedy then .fork body exit else .fork exit body

/-- Repeat an emission `n` times, each copy going on to the one emitted before it. -/
def copies (emitBody : Nat → Array Instr → Nat × Array Instr) :
    Nat → Nat → Array Instr → Nat × Array Instr
  | 0, next, code => (next, code)
  | n + 1, next, code =>
    let (entry, code) := emitBody next code
    copies emitBody n entry code

/-- `n` optional copies, each of which may be left for `exit`. -/
def optionalCopies (emitBody : Nat → Array Instr → Nat × Array Instr) (greedy : Bool) (exit : Nat) :
    Nat → Nat → Array Instr → Nat × Array Instr
  | 0, next, code => (next, code)
  | n + 1, next, code =>
    let (entry, code) := emitBody next code
    optionalCopies emitBody greedy exit n code.size (code.push (loopFork greedy entry exit))

/-- Emit the code of an expression that goes on at `next`; gives the place to enter it. -/
def emit : Expr → Nat → Array Instr → Nat × Array Instr
  | .empty, next, code => (next, code)
  | .text cs, next, code =>
    cs.foldr (fun c (entry, code) => (code.size, code.push (.one (.singleton c.toNat) entry)))
      (next, code)
  | .one set, next, code => (code.size, code.push (.one set next))
  | .look condition, next, code => (code.size, code.push (.look condition next))
  | .group _ e, next, code => emit e next code
  | .seq a b, next, code =>
    let (entry, code) := emit b next code
    emit a entry code
  | .alt a b, next, code =>
    let (left, code) := emit a next code
    let (right, code) := emit b next code
    (code.size, code.push (.fork left right))
  | .rep least (some most) greedy e, next, code =>
    let (entry, code) := optionalCopies (emit e) greedy next (most - least) next code
    copies (emit e) least entry code
  | .rep least none greedy e, next, code =>
    let loop := code.size
    let (body, code) := emit e loop (code.push .accept)
    let code := code.setIfInBounds loop (loopFork greedy body next)
    if least = 0 then
      if e.nullable then (code.size, code.push (loopFork greedy body next))
      else (loop, code)
    else copies (emit e) (least - 1) body code

def ofExpr (e : Expr) : Program :=
  let (start, code) := emit e 0 #[.accept]
  ⟨code, start⟩

/-- Whether a character next to a place, if there is one, belongs to a word. -/
def isWord (wide : Bool) : Option Char → Bool
  | none => false
  | some c =>
    if c.toNat < 0x80 then c.isAlphanum || c = '_'
    else wide && Property.wordCharacter.contains c.toNat

/-- Whether a condition holds between two characters; `none` is the end of the text. -/
def holds (before after : Option Char) : Look → Bool
  | .textStart => before.isNone
  | .textEnd => after.isNone
  | .lineStart => before.isNone || before == some '\n'
  | .lineEnd => after.isNone || after == some '\n'
  | .lineStartReturn =>
    before.isNone || before == some '\n' || (before == some '\r' && after != some '\n')
  | .lineEndReturn =>
    after.isNone || after == some '\r' || (after == some '\n' && before != some '\r')
  | .wordEdge wide => isWord wide before != isWord wide after
  | .wordInside wide => isWord wide before == isWord wide after
  | .wordStart wide => !isWord wide before && isWord wide after
  | .wordEnd wide => isWord wide before && !isWord wide after
  | .wordStartHalf wide => !isWord wide before
  | .wordEndHalf wide => !isWord wide after

/-- A thread: a place in the program, and where in the text its match starts. -/
structure Thread where
  place : Nat
  start : Nat

/-- The threads that wait for a character, most preferred first, and the start of a match that ends
here, if one is preferred to all threads left out. -/
structure Frontier where
  waiting : List (CodeSet × Thread) := []
  found : Option Nat := none

/-- Follow threads up to the next character. A place that a more preferred thread has reached is not
visited again, and once a thread accepts the less preferred ones are dropped. -/
def follow (p : Program) (before after : Option Char) :
    (fuel : Nat) → List Thread → Array Bool → List (CodeSet × Thread) → Frontier
  | 0, _, _, waiting => ⟨waiting.reverse, none⟩
  | _ + 1, [], _, waiting => ⟨waiting.reverse, none⟩
  | n + 1, t :: ts, visited, waiting =>
    if visited.getD t.place true then follow p before after n ts visited waiting
    else
      let visited := visited.setIfInBounds t.place true
      match p.code[t.place]? with
      | none => follow p before after n ts visited waiting
      | some (.one set next) =>
        follow p before after n ts visited ((set, ⟨next, t.start⟩) :: waiting)
      | some (.look condition next) =>
        if holds before after condition then
          follow p before after n (⟨next, t.start⟩ :: ts) visited waiting
        else follow p before after n ts visited waiting
      | some (.fork a b) =>
        follow p before after n (⟨a, t.start⟩ :: ⟨b, t.start⟩ :: ts) visited waiting
      | some .accept => ⟨waiting.reverse, some t.start⟩

/-- The frontier of some threads between two characters. Every place is entered once, and adds at
most two threads. -/
def frontier (p : Program) (before after : Option Char) (threads : List Thread) : Frontier :=
  follow p before after (2 * p.code.size + threads.length + 1) threads
    (Array.replicate p.code.size false) []

/-- Run threads over a text that goes on with `rest` at `offset`, with the best match so far.
As long as there is none, a match may also start here. -/
def run (p : Program) : List Char → Option Char → Nat → List Thread → Option (Nat × Nat) →
    Option (Nat × Nat)
  | rest, before, offset, threads, best =>
    let threads := if best.isNone then threads ++ [⟨p.start, offset⟩] else threads
    if threads.isEmpty then best
    else
      let f := p.frontier before rest.head? threads
      let best := (f.found.map fun s => (s, offset)) <|> best
      match rest with
      | [] => best
      | c :: rest' =>
        let moved := f.waiting.filterMap fun (set, t) =>
          if set.contains c.toNat then some t else none
        run p rest' (some c) (offset + c.utf8Size) moved best

/-- The first match at or after `offset`, where `rest` begins: its byte offsets. -/
def search (p : Program) (before : Option Char) (offset : Nat) (rest : List Char) :
    Option (Nat × Nat) :=
  p.run rest before offset [] none

/-- Go forward in a text up to an offset; `before` is the character before the place. -/
def advance (target : Nat) : Option Char → Nat → List Char → Option Char × Nat × List Char
  | before, offset, [] => (before, offset, [])
  | before, offset, c :: rest =>
    if target ≤ offset then (before, offset, c :: rest)
    else advance target (some c) (offset + c.utf8Size) rest

/-- The starts of all matches from a place on, none overlapping the one before. An empty match right
at the end of the match before it does not count; the search then goes on behind the next
character. -/
def startsFrom (p : Program) :
    (fuel : Nat) → Option Nat → Option Char → Nat → List Char → List Nat
  | 0, _, _, _, _ => []
  | n + 1, last, before, offset, rest =>
    let go (m : Nat × Nat) (before : Option Char) (offset : Nat) (rest : List Char) : List Nat :=
      let (before, offset, rest) := advance m.2 before offset rest
      m.1 :: startsFrom p n (some m.2) before offset rest
    match p.search before offset rest with
    | none => []
    | some m =>
      if m.1 = m.2 ∧ last = some m.2 then
        match rest with
        | [] => []
        | c :: rest' =>
          match p.search (some c) (offset + c.utf8Size) rest' with
          | none => []
          | some m' => go m' (some c) (offset + c.utf8Size) rest'
      else go m before offset rest

/-- The byte offsets where the matches in a text start. -/
def starts (p : Program) (text : List Char) : List Nat :=
  p.startsFrom (text.length + 2) none none 0 text

end Program
end EditAssist.Pattern
