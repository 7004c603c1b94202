/-! Undo and redo. A history keeps the current snapshot of a text, the snapshots that undo goes back
to, and the ones that redo goes forward to. A recorded snapshot becomes a step of its own if it
differs enough from the current one, and replaces the current one otherwise, so that a burst of
small edits is undone at once. -/
namespace EditAssist

/-- A text with a selection, in bytes, and the time it was taken, in milliseconds. -/
structure Snapshot where
  text : List Char
  selection : Nat × Nat := (0, 0)
  time : Nat := 0
  deriving DecidableEq, Repr

namespace Snapshot

def newlines (s : Snapshot) : Nat := s.text.count '\n'

/-- By how many characters the texts of two snapshots differ in length. -/
def lengthChange (a b : Snapshot) : Nat :=
  (a.text.length - b.text.length) + (b.text.length - a.text.length)

end Snapshot

/-- When a snapshot is a step of its own, and how many steps are kept. -/
structure History.Limits where
  maxUndo : Nat := 100
  /-- A change of the length by so many characters always makes a step. -/
  minCharDelta : Nat := 3
  /-- After more milliseconds than this, every edit makes a step. -/
  idleMs : Nat := 2000
  deriving DecidableEq, Repr

/-- The snapshots before the current one, latest first, and those after it, next first. -/
structure History where
  limits : History.Limits := {}
  undos : List Snapshot := []
  current : Option Snapshot := none
  redos : List Snapshot := []
  deriving DecidableEq, Repr

namespace History

/-- Whether a snapshot differs enough from the one before it to be a step of its own. -/
def Limits.significant (l : Limits) (old new : Snapshot) : Bool :=
  let delta := old.lengthChange new
  l.minCharDelta ≤ delta || l.idleMs < new.time - old.time ||
    (old.selection != new.selection && 1 ≤ delta) || old.newlines != new.newlines

/-- Add a snapshot to go back to; the oldest ones are forgotten past the limit. -/
def pushUndo (h : History) (s : Snapshot) : List Snapshot := (s :: h.undos).take h.limits.maxUndo

/-- The snapshots to go back to once the current one has been left behind. -/
def leaveCurrent (h : History) : List Snapshot :=
  match h.current with
  | none => h.undos
  | some s => h.pushUndo s

/-- Whether recording a snapshot makes a step. -/
def makesStep (h : History) (s : Snapshot) (force : Bool) : Bool :=
  force || match h.current with
    | none => true
    | some old => h.limits.significant old s

/-- Record a snapshot; the Boolean tells whether it made a step. -/
def record (h : History) (s : Snapshot) (force : Bool) : Bool × History :=
  if h.makesStep s force then
    (true, { h with undos := h.leaveCurrent, current := some s, redos := [] })
  else (false, { h with current := some s })

/-- Go back to the snapshot before the current one, if there is one. -/
def undo (h : History) : Option Snapshot × History :=
  match h.undos with
  | [] => (none, h)
  | s :: rest => (some s, { h with undos := rest, current := some s, redos := h.current.toList ++ h.redos })

/-- Go forward to the snapshot after the current one, if there is one. -/
def redo (h : History) : Option Snapshot × History :=
  match h.redos with
  | [] => (none, h)
  | s :: rest => (some s, { h with undos := h.leaveCurrent, current := some s, redos := rest })

/-- Forget all snapshots. -/
def clear (h : History) : History := { limits := h.limits }

def canUndo (h : History) : Bool := !h.undos.isEmpty

def canRedo (h : History) : Bool := !h.redos.isEmpty

theorem undo_eq_none_iff (h : History) : h.undo.1 = none ↔ h.undos = [] := by
  rw [undo]; split <;> simp_all

theorem redo_eq_none_iff (h : History) : h.redo.1 = none ↔ h.redos = [] := by
  rw [redo]; split <;> simp_all

end History
end EditAssist
