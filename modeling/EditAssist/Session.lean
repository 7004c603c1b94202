import EditAssist.Config

/-! An editing session: a history that records an edit only once no other edit has come for a while.
An edit waits for its time; a further edit takes its place, and undo and redo record it first. The
time is counted by the session and moves only when the session is told so. A session without a
clock records every edit at once. -/
namespace EditAssist

/-- An edit that waits to be recorded, and for how long it has waited; its timer runs as long as it
waits. -/
structure Waiting where
  snapshot : Snapshot
  elapsed : Nat := 0
  deriving DecidableEq, Repr

structure Session where
  history : History := {}
  /-- How many milliseconds an edit waits. -/
  debounce : Nat := 500
  hasClock : Bool := true
  waiting : Option Waiting := none
  deriving DecidableEq, Repr

namespace Session

def make (limits : History.Limits) (debounce : Nat) (hasClock : Bool) : Session :=
  { history := { limits }, debounce, hasClock }

def ofConfig (c : Config) (hasClock : Bool) : Session := make c.limits c.debounceMs hasClock

/-- Record the edit that waits, if there is one; the Boolean tells whether it made a step. -/
def commit (s : Session) : Bool × Session :=
  match s.waiting with
  | none => (false, s)
  | some w =>
    let (stepped, history) := s.history.record w.snapshot false
    (stepped, { s with history, waiting := none })

/-- An edit takes the place of one that waits. -/
def edit (s : Session) (snapshot : Snapshot) : Session :=
  let s := { s with waiting := some { snapshot } }
  if s.hasClock then s else s.commit.2

/-- Record the edit that waits without waiting any longer. -/
def flush (s : Session) : Bool × Session := s.commit

/-- Record a snapshot as a step of its own; an edit that waits is dropped. -/
def force (s : Session) (snapshot : Snapshot) : Session :=
  { s with history := (s.history.record snapshot true).2, waiting := none }

def undo (s : Session) : Option Snapshot × Session :=
  let s := s.flush.2
  let (result, history) := s.history.undo
  (result, { s with history })

def redo (s : Session) : Option Snapshot × Session :=
  let s := s.flush.2
  let (result, history) := s.history.redo
  (result, { s with history })

/-- Forget all snapshots and the edit that waits. -/
def reset (s : Session) : Session := { s with history := s.history.clear, waiting := none }

/-- Let time pass; an edit that has waited long enough is recorded. -/
def advance (s : Session) (ms : Nat) : Session :=
  match s.waiting with
  | none => s
  | some w =>
    if s.debounce ≤ w.elapsed + ms then s.commit.2
    else { s with waiting := some { w with elapsed := w.elapsed + ms } }

example :
    let s : Session := { debounce := 500 }
    ((s.edit ⟨['a'], (0, 0), 0⟩).advance 499).waiting.isSome ∧
      (((s.edit ⟨['a'], (0, 0), 0⟩).advance 499).advance 1).waiting.isNone := by decide

end Session
end EditAssist
