import EditAssist.Proofs.Session.Expiry

/-! A session without a clock. It records each edit at once, so that no edit ever waits in it: it is
the session with a clock in which a flush follows each edit, and a plain history on which each edit is
recorded. The two sessions go different ways about an edit, but are settled again behind it. -/
namespace EditAssist.Session
open History (Op)

/-- A step, with a flush behind it if it is an edit. -/
def Step.flushed : Step → List Step
  | .edit e => [.edit e, .flush]
  | st => [st]

/-- What a step asks of a history on which each edit is recorded when it is made. -/
def Step.atOnce (st : Step) : List Op := (Event.step st).atOnce

/-- A session in which no edit waits, with or without a clock, and its history. -/
structure Settled (clock : Bool) (h : History) (s : Session) : Prop where
  hasClock_eq : s.hasClock = clock
  waiting_eq : s.waiting = none
  history_eq : s.history = h

lemma settled_make (limits : History.Limits) (debounce : ℕ) (clock : Bool) :
    Settled clock { limits } (make limits debounce clock) := ⟨rfl,rfl,rfl⟩

namespace Settled
variable {clock : Bool} {h : History} {s : Session}

/-- Where no edit waits there is nothing to flush. -/
lemma flush_eq (hs : Settled clock h s) : s.flush = (false, s) := by
  rw [flush, commit, hs.waiting_eq]

lemma undo_eq (hs : Settled clock h s) : s.undo = (h.undo.1, { s with history := h.undo.2 }) := by
  rw [undo, hs.flush_eq, ← hs.history_eq]

lemma redo_eq (hs : Settled clock h s) : s.redo = (h.redo.1, { s with history := h.redo.2 }) := by
  rw [redo, hs.flush_eq, ← hs.history_eq]

/-- A session without a clock is settled behind each step. -/
theorem step (hs : Settled false h s) (st : Step) : Settled false (h.run st.atOnce) (s.step st) := by
  obtain ⟨hhistory,hwaiting⟩ := react_of_no_clock hs.hasClock_eq hs.waiting_eq (.step st)
  rw [hs.history_eq] at hhistory
  exact ⟨(hasClock_step s st).trans hs.hasClock_eq,hwaiting,hhistory⟩

/-- An edit that is flushed is recorded. -/
lemma edit_flush (hs : Settled true h s) (e : Snapshot) :
    Settled true (h.record e false).2 (s.run [.edit e, .flush]) := by
  have hedit : s.edit e = { s with waiting := some { snapshot := e } } := by
    rw [edit, if_pos hs.hasClock_eq]
  rw [← hs.history_eq]
  change Settled true _ (s.edit e).flush.2
  rw [hedit]
  exact ⟨hs.hasClock_eq,rfl,rfl⟩

/-- A session with a clock is settled behind each step with which edits are flushed. -/
theorem run_flushed (hs : Settled true h s) (st : Step) :
    Settled true (h.run st.atOnce) (s.run st.flushed) := by
  cases st with
  | edit e => exact hs.edit_flush e
  | force e => exact ⟨hs.hasClock_eq,rfl,by rw [← hs.history_eq]; rfl⟩
  | flush =>
    change Settled true h s.flush.2
    rwa [hs.flush_eq]
  | undo =>
    change Settled true h.undo.2 s.undo.2
    rw [hs.undo_eq]
    exact ⟨hs.hasClock_eq,hs.waiting_eq,rfl⟩
  | redo =>
    change Settled true h.redo.2 s.redo.2
    rw [hs.redo_eq]
    exact ⟨hs.hasClock_eq,hs.waiting_eq,rfl⟩
  | reset => exact ⟨hs.hasClock_eq,rfl,by rw [← hs.history_eq]; rfl⟩
  | advance ms =>
    change Settled true h (s.advance ms)
    rwa [advance, hs.waiting_eq]

theorem run (hs : Settled false h s) (steps : List Step) :
    Settled false (h.run (steps.flatMap Step.atOnce)) (s.run steps) := by
  induction steps generalizing h s with
  | nil => exact hs
  | cons st steps ih =>
    rw [List.flatMap_cons, History.run_append]
    exact ih (hs.step st)

theorem run_flatMap_flushed (hs : Settled true h s) (steps : List Step) :
    Settled true (h.run (steps.flatMap Step.atOnce)) (s.run (steps.flatMap Step.flushed)) := by
  induction steps generalizing h s with
  | nil => exact hs
  | cons st steps ih =>
    rw [List.flatMap_cons, List.flatMap_cons, History.run_append, Session.run, List.foldl_append]
    exact ih (hs.run_flushed st)

end Settled

/-- Without a clock there is no debouncing. Behind any steps, and so behind each step of a run, a
session without a clock has the history of one with a clock in which a flush follows each edit, and
that of a plain history on which each edit is recorded: the current snapshot is the same, and what can
be undone and redone. Undo and redo answer the same in all three. To flush a session without a clock
changes nothing and makes no step. -/
theorem run_without_clock (limits : History.Limits) (debounce : ℕ) (steps : List Step) :
    let s := (make limits debounce false).run steps
    let t := (make limits debounce true).run (steps.flatMap Step.flushed)
    let h := History.run { limits } (steps.flatMap Step.atOnce)
    (s.history = t.history ∧ s.history = h) ∧ (s.undo.1 = t.undo.1 ∧ s.undo.1 = h.undo.1) ∧
      (s.redo.1 = t.redo.1 ∧ s.redo.1 = h.redo.1) ∧ s.flush = (false, s) := by
  intro s t h
  have hs : Settled false h s := (settled_make limits debounce false).run steps
  have ht : Settled true h t := (settled_make limits debounce true).run_flatMap_flushed steps
  refine ⟨⟨?_,hs.history_eq⟩,⟨?_,?_⟩,⟨?_,?_⟩,hs.flush_eq⟩
  · rw [hs.history_eq, ht.history_eq]
  · rw [hs.undo_eq, ht.undo_eq]
  · rw [hs.undo_eq]
  · rw [hs.redo_eq, ht.redo_eq]
  · rw [hs.redo_eq]

end EditAssist.Session
