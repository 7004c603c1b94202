import EditAssist.Pattern.Encoding
import Std.Data.HashMap

/-! The room that an automaton over bytes takes while it is laid out. States are numbered as they are
added, and only their number and the room of their edges are kept, for nothing else is asked here.
Sets of characters and choices between texts share states where their encodings agree. -/
namespace EditAssist.Pattern

/-- An automaton that is being laid out: how many states it has so far, and how many bytes their
edges take. -/
structure Layout where
  states : Nat := 0
  edges : Nat := 0
  deriving DecidableEq, Repr

namespace Layout

/-- The room an automaton may take, in bytes. -/
def limit : Nat := 10 * 1024 * 1024

/-- The bytes that the automaton takes: 32 for each state besides the edges. -/
def room (m : Layout) : Nat := 32 * m.states + m.edges

def full (m : Layout) : Bool := limit < m.room

/-- Add `n` states that store their only edge in place, or have none. -/
def plain (m : Layout) (n : Nat) : Layout := { m with states := m.states + n }

/-- Add a state that chooses by the next byte between `n` ranges. -/
def switch (m : Layout) (n : Nat) : Layout := ⟨m.states + 1, m.edges + 8 * n⟩

/-- Add a state that tries `n` others in turn. -/
def fork (m : Layout) (n : Nat) : Layout := ⟨m.states + 1, m.edges + 4 * n⟩

/-- Let a fork that is already there try `n` more states. -/
def widen (m : Layout) (n : Nat) : Layout := { m with edges := m.edges + 4 * n }

/-- Lay out something `n` times, or until there is no more room. -/
def copies (body : Layout → Layout) : Nat → Layout → Layout
  | 0, m => m
  | n + 1, m => if m.full then m else copies body n (body m)

/-- States that were laid out before, to be found again by what they hold. Each has its place among a
fixed number of slots by a digest of what it holds, and gives way to a later state in that slot. -/
structure Memory where
  size : Nat
  slots : Std.HashMap Nat (List Nat × Nat) := {}

namespace Memory

/-- A digest of some numbers. -/
def digest (key : List Nat) : UInt64 :=
  key.foldl (fun h n => (h ^^^ n.toUInt64) * 1099511628211) 14695981039346656037

def slot (memory : Memory) (key : List Nat) : Nat := (digest key).toNat % memory.size

def find? (memory : Memory) (key : List Nat) : Option Nat :=
  match memory.slots[memory.slot key]? with
  | some (key', id) => if key = key' then some id else none
  | none => none

def insert (memory : Memory) (key : List Nat) (id : Nat) : Memory :=
  { memory with slots := memory.slots.insert (memory.slot key) (key, id) }

end Memory

/-- A layout together with the states that can be found again. -/
structure Draft where
  layout : Layout
  memory : Memory

namespace Draft

/-- The state that holds `key`: one found again, or a new one that `add` lays out. -/
def state (d : Draft) (key : List Nat) (add : Layout → Layout) : Nat × Draft :=
  match d.memory.find? key with
  | some id => (id, d)
  | none => (d.layout.states, ⟨add d.layout, d.memory.insert key d.layout.states⟩)

/-- Group sequences that follow one another and start with the same range: each range with what
comes behind it. -/
def grouped : List ByteRanges → List ((Nat × Nat) × List ByteRanges)
  | [] => []
  | [] :: rest => grouped rest
  | (r :: tail) :: rest =>
    match grouped rest with
    | (r', tails) :: groups =>
      if r = r' then (r, tail :: tails) :: groups else (r, [tail]) :: (r', tails) :: groups
    | [] => [(r, [tail])]

/-- Lay out the tree of some sequences from its leaves up; every sequence leads to `target`. Gives
the root. -/
def tree (target : Nat) : (depth : Nat) → List ByteRanges → Draft → Nat × Draft
  | 0, _, d => (target, d)
  | depth + 1, seqs, d =>
    if seqs.all List.isEmpty then (target, d)
    else
      let (key, d) := (grouped seqs).foldl
        (fun (key, d) ((lo, hi), tails) =>
          let (id, d) := tree target depth tails d
          (id :: hi :: lo :: key, d))
        (([], d) : List Nat × Draft)
      d.state key.reverse fun m => m.switch (key.length / 3)

/-- Lay out one sequence from its end back, so that the state of the first range leads to `target`. -/
def chain (target : Nat) (seq : ByteRanges) (d : Draft) : Draft :=
  (seq.foldl
    (fun (next, d) (lo, hi) => d.state [next, lo, hi] fun m => m.plain 1)
    ((target, d) : Nat × Draft)).2

end Draft

/-- Lay out the encodings of a set for reading forwards: they share equal endings. -/
def setForwards (seqs : List ByteRanges) (m : Layout) : Layout :=
  let d : Draft := ⟨m.plain 1, ⟨10000, {}⟩⟩
  (d.tree m.states 4 seqs).2.layout

/-- Lay out the encodings of a set for reading backwards: they share equal beginnings. -/
def setBackwards (seqs : List ByteRanges) (m : Layout) : Layout :=
  let m := m.plain 2
  let d : Draft := seqs.foldl (fun d seq => d.chain (m.states - 1) seq) ⟨m, ⟨1000, {}⟩⟩
  d.layout.widen seqs.length

/-- Cut a list of words at each empty one, which is left out. -/
def cut : List (List Nat) → List (List (List Nat))
  | [] => [[]]
  | [] :: ws => [] :: cut ws
  | w :: ws =>
    match cut ws with
    | [] => [[w]]
    | run :: runs => (w :: run) :: runs

/-- The words that go on from a place in a tree of words, cut where a word ends there: later words
are less preferred than that end. As long as no word goes on, more ends change nothing. -/
def runs (ws : List (List Nat)) : List (List (List Nat)) :=
  match ws with
  | [] :: rest => [] :: cut (rest.dropWhile List.isEmpty)
  | ws => cut ws

/-- What comes behind the byte `b` in the words that start with it. -/
def behind (b : Nat) (words : List (List Nat)) : List (List Nat) :=
  words.filterMap fun
    | [] => none
    | b' :: rest => if b = b' then some rest else none

/-- Lay out the tree of some words from its leaves up, the first words preferred. -/
def words : (depth : Nat) → List (List Nat) → Layout → Layout
  | 0, _, m => m
  | depth + 1, ws, m =>
    if ws.all List.isEmpty then m
    else
      let runs := runs ws
      let m := runs.foldl
        (fun m run =>
          let firsts := (run.filterMap List.head?).eraseDups
          let m := firsts.foldl (fun m b => words depth (behind b run) m) m
          if firsts.length ≤ 1 then m.plain firsts.length else m.switch firsts.length) m
      m.fork (runs.countP (!·.isEmpty) + runs.length - 1)

/-- Lay out a choice between words of bytes. -/
def choice (m : Layout) (ws : List (List Nat)) : Layout :=
  words (ws.foldl (fun n w => max n w.length) 0) ws (m.plain 1)

example : (choice {} [[1, 2], [1, 3]]).states = 5 := by cbv

end Layout
end EditAssist.Pattern
