import EditAssist.Proofs.Session.Expiry

/-! A session with its timer. An edit that waits stands in a slot, and beside the slot the session holds
the timer that was started for it; a step cancels the timer on its own, and a timer that goes off
records whatever is in the slot. A `Session`, which keeps an edit and the age of its timer as one, stands
for the two: a slot is full only while the timer of its edit runs, and a timer that runs beside an empty
slot finds nothing. So the two sessions give the same answers and have the same history. -/
namespace EditAssist
open Session (Step Event)

/-- A timer that is held. -/
inductive Timer where
  | running (elapsed : ℕ)
  | finished

structure TimedSession where
  history : History := {}
  debounce : ℕ := 500
  hasClock : Bool := true
  slot : Option Snapshot := none
  timer : Option Timer := none

namespace TimedSession

def make (limits : History.Limits) (debounce : ℕ) (hasClock : Bool) : TimedSession :=
  { history := { limits }, debounce, hasClock }

def cancelTimer (s : TimedSession) : TimedSession := { s with timer := none }

/-- Record what is in the slot, if there is anything. -/
def commit (s : TimedSession) : Bool × TimedSession :=
  match s.slot with
  | none => (false, s)
  | some e =>
    let (stepped, history) := s.history.record e false
    (stepped, { s with history, slot := none })

def edit (s : TimedSession) (e : Snapshot) : TimedSession :=
  let s := { s.cancelTimer with slot := some e }
  if s.hasClock then { s with timer := some (.running 0) } else s.commit.2

def flush (s : TimedSession) : Bool × TimedSession := s.cancelTimer.commit

def force (s : TimedSession) (e : Snapshot) : TimedSession :=
  let s := { s.cancelTimer with slot := none }
  { s with history := (s.history.record e true).2 }

def undo (s : TimedSession) : Option Snapshot × TimedSession :=
  let s := s.flush.2
  (s.history.undo.1, { s with history := s.history.undo.2 })

def redo (s : TimedSession) : Option Snapshot × TimedSession :=
  let s := s.flush.2
  (s.history.redo.1, { s with history := s.history.redo.2 })

def reset (s : TimedSession) : TimedSession :=
  let s := { s.cancelTimer with slot := none }
  { s with history := s.history.clear }

/-- A timer goes off: the one that is held, or one that was cancelled when it was too late. -/
def expire (s : TimedSession) (held : Bool) : TimedSession :=
  if held then { s.commit.2 with timer := s.timer.map fun _ => .finished } else s.commit.2

/-- Let time pass; a timer that has run long enough goes off. -/
def advance (s : TimedSession) (ms : ℕ) : TimedSession :=
  match s.timer with
  | some (.running elapsed) =>
    if s.debounce ≤ elapsed + ms then s.expire true
    else { s with timer := some (.running (elapsed + ms)) }
  | _ => s

/-- What can happen to a session with its timer. -/
inductive Happening where
  | step (st : Step)
  | expire (held : Bool)

def react (s : TimedSession) : Happening → TimedSession
  | .step (.edit e) => s.edit e
  | .step (.force e) => s.force e
  | .step .flush => s.flush.2
  | .step .undo => s.undo.2
  | .step .redo => s.redo.2
  | .step .reset => s.reset
  | .step (.advance ms) => s.advance ms
  | .expire held => s.expire held

def run (s : TimedSession) (hs : List Happening) : TimedSession := hs.foldl react s

/-- Whichever timer goes off, it is an expiry. -/
def Happening.event : Happening → Event
  | .step st => .step st
  | .expire _ => .expire

/-- A session that stands for one with its timer: what waits is what is in the slot, and the timer that
is held has run for as long as it has waited. -/
structure Stands (m : Session) (s : TimedSession) : Prop where
  history_eq : m.history = s.history
  debounce_eq : m.debounce = s.debounce
  hasClock_eq : m.hasClock = s.hasClock
  slot_eq : m.waiting.map (·.snapshot) = s.slot
  timer_eq : ∀ w, m.waiting = some w → s.timer = some (.running w.elapsed)

lemma stands_make (limits : History.Limits) (debounce : ℕ) (hasClock : Bool) :
    Stands (.make limits debounce hasClock) (make limits debounce hasClock) where
  history_eq := rfl
  debounce_eq := rfl
  hasClock_eq := rfl
  slot_eq := rfl
  timer_eq w hw := by simp [Session.make] at hw

section Steps
variable {m : Session} {s : TimedSession}

/-- Behind a commit nothing waits, whatever becomes of the timer. -/
lemma Stands.commit (h : Stands m s) (timer : Option Timer) :
    m.commit.1 = s.commit.1 ∧ Stands m.commit.2 { s.commit.2 with timer := timer } := by
  cases hw : m.waiting with
  | none =>
    have hslot : s.slot = none := by rw [← h.slot_eq, hw, Option.map_none]
    simp only [Session.commit, hw, TimedSession.commit, hslot]
    exact ⟨trivial,h.history_eq,h.debounce_eq,h.hasClock_eq,by simp [hw],by simp [hw]⟩
  | some w =>
    have hslot : s.slot = some w.snapshot := by rw [← h.slot_eq, hw, Option.map_some]
    simp only [Session.commit, hw, TimedSession.commit, hslot, h.history_eq]
    exact ⟨trivial,rfl,h.debounce_eq,h.hasClock_eq,rfl,by simp⟩

lemma commit_cancelTimer (s : TimedSession) :
    s.cancelTimer.commit = (s.commit.1, { s.commit.2 with timer := none }) := by
  cases hs : s.slot <;> simp [commit, cancelTimer, hs]

/-- A flush answers the same, whether it cancels a timer or not. -/
lemma Stands.flush (h : Stands m s) : m.flush.1 = s.flush.1 ∧ Stands m.flush.2 s.flush.2 := by
  rw [TimedSession.flush, commit_cancelTimer]
  exact h.commit none

lemma Stands.edit (h : Stands m s) (e : Snapshot) : Stands (m.edit e) (s.edit e) := by
  have hslot : Stands { m with waiting := some { snapshot := e } }
      { s with slot := some e, timer := some (.running 0) } :=
    ⟨h.history_eq,h.debounce_eq,h.hasClock_eq,rfl,by simp⟩
  cases hclock : s.hasClock with
  | true =>
    have hm : m.hasClock = true := h.hasClock_eq.trans hclock
    simpa [Session.edit, TimedSession.edit, hm, hclock, cancelTimer] using hslot
  | false =>
    have hm : m.hasClock = false := h.hasClock_eq.trans hclock
    simpa [Session.edit, TimedSession.edit, hm, hclock, cancelTimer, Session.commit,
      TimedSession.commit] using (hslot.commit none).2

/-- Where the slot is emptied and the timer cancelled nothing waits, with any history in both. -/
lemma Stands.cleared (h : Stands m s) (history : History) :
    Stands { m with history, waiting := none } { s.cancelTimer with history, slot := none } :=
  ⟨rfl,h.debounce_eq,h.hasClock_eq,rfl,by simp⟩

lemma Stands.force (h : Stands m s) (e : Snapshot) : Stands (m.force e) (s.force e) := by
  rw [Session.force, h.history_eq]
  exact h.cleared (s.history.record e true).2

lemma Stands.reset (h : Stands m s) : Stands m.reset s.reset := by
  rw [Session.reset, h.history_eq]
  exact h.cleared s.history.clear

/-- Another history in both. -/
lemma Stands.withHistory (h : Stands m s) (history : History) :
    Stands { m with history } { s with history } :=
  ⟨rfl,h.debounce_eq,h.hasClock_eq,h.slot_eq,h.timer_eq⟩

lemma Stands.undo (h : Stands m s) : m.undo.1 = s.undo.1 ∧ Stands m.undo.2 s.undo.2 := by
  have hflush := h.flush.2
  simp only [Session.undo, TimedSession.undo, hflush.history_eq]
  exact ⟨trivial,hflush.withHistory _⟩

lemma Stands.redo (h : Stands m s) : m.redo.1 = s.redo.1 ∧ Stands m.redo.2 s.redo.2 := by
  have hflush := h.flush.2
  simp only [Session.redo, TimedSession.redo, hflush.history_eq]
  exact ⟨trivial,hflush.withHistory _⟩

lemma Stands.expire (h : Stands m s) (held : Bool) : Stands m.commit.2 (s.expire held) := by
  cases held with
  | true => exact (h.commit (s.timer.map fun _ => .finished)).2
  | false => exact (h.commit s.commit.2.timer).2

/-- Where nothing waits the timer may be any. -/
lemma Stands.withTimer (h : Stands m s) (hw : m.waiting = none) (timer : Option Timer) :
    Stands m { s with timer := timer } :=
  ⟨h.history_eq,h.debounce_eq,h.hasClock_eq,h.slot_eq,by simp [hw]⟩

lemma Stands.advance (h : Stands m s) (ms : ℕ) : Stands (m.advance ms) (s.advance ms) := by
  cases hw : m.waiting with
  | none =>
    have hcommit : m.commit.2 = m := by rw [Session.commit, hw]
    have hexpire := h.expire true
    rw [hcommit] at hexpire
    have hm : m.advance ms = m := by rw [Session.advance, hw]
    rw [hm, TimedSession.advance]
    split
    · split_ifs
      · exact hexpire
      · exact h.withTimer hw _
    · exact h
  | some w =>
    rw [Session.advance, hw, TimedSession.advance, h.timer_eq w hw, h.debounce_eq]
    dsimp only
    split_ifs
    · exact h.expire true
    · refine ⟨h.history_eq,rfl,h.hasClock_eq,?_,by simp⟩
      rw [← h.slot_eq, hw]
      rfl

/-- Whatever happens to both, the one still stands for the other. -/
theorem Stands.react (h : Stands m s) (ev : Happening) : Stands (m.react ev.event) (s.react ev) := by
  cases ev with
  | expire held => exact h.expire held
  | step st =>
    cases st with
    | edit e => exact h.edit e
    | force e => exact h.force e
    | flush => exact h.flush.2
    | undo => exact h.undo.2
    | redo => exact h.redo.2
    | reset => exact h.reset
    | advance ms => exact h.advance ms

theorem Stands.run (h : Stands m s) (hs : List Happening) :
    Stands (m.runEvents (hs.map Happening.event)) (s.run hs) := by
  induction hs generalizing m s with
  | nil => exact h
  | cons ev hs ih => exact ih (h.react ev)

end Steps

/-- Behind everything that can happen, a session stands for the one with its timer that went the same
way: they have the same history, and a flush, an undo and a redo answer the same. -/
theorem stands_run (limits : History.Limits) (debounce : ℕ) (hasClock : Bool) (hs : List Happening) :
    let m := (Session.make limits debounce hasClock).runEvents (hs.map Happening.event)
    let s := (make limits debounce hasClock).run hs
    Stands m s ∧ m.history = s.history ∧ m.flush.1 = s.flush.1 ∧ m.undo.1 = s.undo.1 ∧
      m.redo.1 = s.redo.1 := by
  intro m s
  have h : Stands m s := (stands_make limits debounce hasClock).run hs
  exact ⟨h,h.history_eq,h.flush.1,h.undo.1,h.redo.1⟩

/-- A session with its timer follows the schedule. -/
theorem history_run (limits : History.Limits) (debounce : ℕ) (hs : List Happening) :
    ((make limits debounce true).run hs).history = History.run { limits }
      (Session.schedule debounce (Session.asSteps debounce (hs.map Happening.event)) hs.length) := by
  have hfollows := Session.follows_runEvents limits debounce (hs.map Happening.event)
    (n := hs.length) (by simp)
  rw [← List.length_map Happening.event, List.take_length] at hfollows
  rw [← (stands_run limits debounce true hs).2.1, hfollows.history_eq, List.length_map]

end TimedSession
end EditAssist
