import EditAssist.Proofs.Session.Debounce

/-! What a session makes of timers that expire when they should not. A timer that expires records
whatever edit waits then, be it the one the timer was set for or a later one, so that an expiry can
come at any point and any number of times. It is as if the whole time to wait went by at once; the
schedule of a session with a clock therefore covers it, and says that no edit is lost, recorded twice
or brought back. In a session without a clock an edit never waits, and an expiry finds nothing. -/
namespace EditAssist.Session
open History (Op)

/-- What can happen to a session: a step, or the expiry of some timer. -/
inductive Event where
  | step (st : Step)
  | expire
  deriving DecidableEq, Repr

def react (s : Session) : Event → Session
  | .step st => s.step st
  | .expire => s.commit.2

def runEvents (s : Session) (events : List Event) : Session := events.foldl react s

/-- An event as a step: at an expiry all of the time to wait goes by. -/
def Event.asStep (debounce : ℕ) : Event → Step
  | .step st => st
  | .expire => .advance debounce

def asSteps (debounce : ℕ) (events : List Event) : List Step := events.map (Event.asStep debounce)

lemma advance_debounce (s : Session) : s.advance s.debounce = s.commit.2 := by
  unfold advance
  cases hw : s.waiting with
  | none => simp only [commit, hw]
  | some w =>
    have hd : s.debounce ≤ w.elapsed + s.debounce := Nat.le_add_left _ _
    simp only [if_pos hd]

lemma react_eq_step (s : Session) (ev : Event) : s.react ev = s.step (ev.asStep s.debounce) := by
  cases ev with
  | step st => rfl
  | expire => exact (advance_debounce s).symm

lemma runEvents_eq_run (s : Session) (events : List Event) :
    s.runEvents events = s.run (asSteps s.debounce events) := by
  induction events generalizing s with
  | nil => rfl
  | cons ev events ih =>
    have hd : (s.react ev).debounce = s.debounce := by rw [react_eq_step, debounce_step]
    change (s.react ev).runEvents events = (s.step (ev.asStep s.debounce)).run _
    rw [ih, hd, react_eq_step]
    rfl

/-- An expiry in the middle of an undo or a redo, which flush first, finds nothing to record. -/
lemma commit_flush (s : Session) : s.flush.2.commit = (false, s.flush.2) := by
  cases hw : s.waiting <;> simp [flush, commit, hw]

/-- An expiry calls for every edit that was made before it. -/
lemma callsFor_expire {debounce : ℕ} {events : List Event} {i k : ℕ} (hik : i < k)
    (hk : events[k]? = some .expire) : callsFor debounce (asSteps debounce events) i k = true := by
  have hst : (asSteps debounce events)[k]? = some (.advance debounce) := by
    rw [asSteps, List.getElem?_map, hk]
    rfl
  rw [callsFor, hst, timeBetween_succ hik hst]
  simp [Step.calls, Step.duration]

/-- An edit is recorded before the next edit is made. -/
lemma RecordedAt.lt_of_editAt {debounce : ℕ} {steps : List Step} {i i' j : ℕ} {e : Snapshot}
    (hr : RecordedAt debounce steps i j) (he : editAt steps i' = some e) (hi : i < i') : j < i' := by
  have hd := displaces_of_editAt he
  obtain ⟨⟨hij,hw⟩,hc⟩ := hr
  rcases Nat.lt_trichotomy j i' with h | rfl | h
  · exact h
  · obtain ⟨st,hst,hs⟩ := Option.bind_eq_some_iff.mp he
    cases st <;> simp_all [Step.edit?, callsFor, Step.calls]
  · exact absurd hd (by simp [(hw i' h hi).2])

/-- What has become of an edit by a later step: it was recorded, it was displaced, or it waits. -/
lemma recorded_or_displaced_or_waits (debounce : ℕ) (steps : List Step) {i n : ℕ} (hn : i < n) :
    (∃ j < n, RecordedAt debounce steps i j) ∨
      (∃ k < n, Waits debounce steps i k ∧ steps[k]?.any (·.displaces) = true) ∨
      Waits debounce steps i n := by
  induction n with
  | zero => omega
  | succ n ih =>
    by_cases hi : i = n
    · exact .inr (.inr (waits_succ.mpr (.inl hi)))
    · rcases ih (by omega) with ⟨j,hj,hr⟩ | ⟨k,hk,hw,hd⟩ | hw
      · exact .inl ⟨j,by omega,hr⟩
      · exact .inr (.inl ⟨k,by omega,hw,hd⟩)
      · cases hc : callsFor debounce steps i n with
        | true => exact .inl ⟨n,by omega,hw,hc⟩
        | false =>
          cases hd : steps[n]?.any (·.displaces) with
          | true => exact .inr (.inl ⟨n,by omega,hw,hd⟩)
          | false => exact .inr (.inr (waits_succ.mpr (.inr ⟨hw,hc,hd⟩)))

/-- A session follows the schedule also under expiries. -/
theorem follows_runEvents (limits : History.Limits) (debounce : ℕ) (events : List Event) {n : ℕ}
    (hn : n ≤ events.length) :
    Follows limits debounce (asSteps debounce events) n
      ((make limits debounce true).runEvents (events.take n)) := by
  have hsteps : asSteps debounce (events.take n) = (asSteps debounce events).take n := List.map_take
  rw [runEvents_eq_run, show (make limits debounce true).debounce = debounce from rfl, hsteps]
  exact follows_run limits debounce _ (by simpa [asSteps] using hn)

section NoClock

/-- What a session without a clock asks of its history at an event. -/
def Event.atOnce : Event → List Op
  | .step (.edit e) => [.record e false]
  | .step st => st.command.toList
  | .expire => []

lemma react_of_no_clock {s : Session} (hc : s.hasClock = false) (hw : s.waiting = none) (ev : Event) :
    (s.react ev).history = s.history.run ev.atOnce ∧ (s.react ev).waiting = none := by
  cases ev with
  | expire => simp [react, commit, hw, Event.atOnce]
  | step st => cases st <;> simp [react, step, edit, flush, undo, redo, force, reset, advance, commit,
      hc, hw, Event.atOnce, Step.command, History.apply]

lemma history_runEvents_of_no_clock {s : Session} (hc : s.hasClock = false) (hw : s.waiting = none)
    (events : List Event) :
    (s.runEvents events).history = s.history.run (events.flatMap Event.atOnce) := by
  induction events generalizing s with
  | nil => rfl
  | cons ev events ih =>
    obtain ⟨hhistory,hwaiting⟩ := react_of_no_clock hc hw ev
    have hclock : (s.react ev).hasClock = false := by rw [react_eq_step, hasClock_step, hc]
    rw [List.flatMap_cons, History.run_append, ← hhistory, ← ih hclock hwaiting]
    rfl

end NoClock

/-- Whatever happens to a session, its history is one that operations lead to. -/
lemma exists_ops_runEvents (limits : History.Limits) (debounce : ℕ) (clock : Bool)
    (events : List Event) :
    ∃ ops, ((make limits debounce clock).runEvents events).history = History.run { limits } ops := by
  cases clock with
  | false => exact ⟨_,history_runEvents_of_no_clock rfl rfl events⟩
  | true =>
    have hfollows := follows_runEvents limits debounce events (Nat.le_refl _)
    rw [List.take_length] at hfollows
    exact ⟨_,hfollows.history_eq⟩

/-- A session never keeps more snapshots to go back to than its limit says. -/
theorem length_undos_runEvents_le (limits : History.Limits) (debounce : ℕ) (clock : Bool)
    (events : List Event) :
    ((make limits debounce clock).runEvents events).history.undos.length ≤ limits.maxUndo := by
  obtain ⟨ops,hops⟩ := exists_ops_runEvents limits debounce clock events
  have hsound := ((History.sound_empty limits).run ops).depth_le
  rw [History.limits_run] at hsound
  rw [hops]
  exact Nat.le_trans (Nat.le_add_right _ _) hsound

/-- Timers that expire at any time do no harm. Behind any number of events the history is that of a
plain history which has followed the schedule so far, where an expiry calls for every edit before it;
an expiry inside an undo or a redo changes nothing. The schedule records an edit at one event only,
and each edit before the next one is made; it never records an edit that was displaced while it
waited; and an edit that it does not record was displaced or still waits at the end. Without a clock
every edit is recorded when it is made, and an expiry changes nothing. -/
theorem history_runEvents_eq_schedule (limits : History.Limits) (debounce : ℕ)
    (events : List Event) :
    let steps := asSteps debounce events
    (∀ n ≤ events.length, ((make limits debounce true).runEvents (events.take n)).history =
      History.run { limits } (schedule debounce steps n)) ∧
    (∀ s : Session, s.flush.2.commit = (false, s.flush.2)) ∧
    (∀ i k, i < k → events[k]? = some .expire → callsFor debounce steps i k = true) ∧
    (∀ i j k, RecordedAt debounce steps i j → RecordedAt debounce steps i k → j = k) ∧
    (∀ i i' j j' e, editAt steps i' = some e → i < i' → RecordedAt debounce steps i j →
      RecordedAt debounce steps i' j' → j < j') ∧
    (∀ i k, Waits debounce steps i k → steps[k]?.any (·.displaces) = true →
      ∀ j, ¬ RecordedAt debounce steps i j) ∧
    (∀ i e, editAt steps i = some e →
      (∃ j < events.length, RecordedAt debounce steps i j) ∨
      (∃ k < events.length, Waits debounce steps i k ∧ steps[k]?.any (·.displaces) = true) ∨
      Waits debounce steps i events.length ∧
        ((make limits debounce true).runEvents events).waiting.map (·.snapshot) = some e) ∧
    ((make limits debounce false).runEvents events).history =
      History.run { limits } (events.flatMap Event.atOnce) := by
  intro steps
  refine ⟨?_,commit_flush,?_,?_,?_,?_,?_,history_runEvents_of_no_clock rfl rfl events⟩
  · intro n hn
    exact (follows_runEvents limits debounce events hn).history_eq
  · intro i k hik hk
    exact callsFor_expire hik hk
  · intro i j k hj hk
    exact hj.step_unique hk
  · intro i i' j j' e he hi hr hr'
    have hj := hr.lt_of_editAt he hi
    have hj' := hr'.1.1
    omega
  · intro i k hw hd j
    exact hw.not_recordedAt hd j
  · intro i e he
    have hi : i < events.length := by
      obtain ⟨st,hst,-⟩ := Option.bind_eq_some_iff.mp he
      simpa [steps, asSteps] using (List.getElem?_eq_some_iff.mp hst).1
    rcases recorded_or_displaced_or_waits debounce steps hi with h | h | hw
    · exact .inl h
    · exact .inr (.inl h)
    · have hf := follows_runEvents limits debounce events (Nat.le_refl _)
      rw [List.take_length] at hf
      refine .inr (.inr ⟨hw,?_⟩)
      rw [hf.waiting_of_waits i e he hw]
      rfl

/-- The timer of an edit that has been displaced records the edit in its place, and the timer of that
one finds nothing left. -/
theorem history_runEvents_eq_schedule_stale :
    let a : Snapshot := ⟨['a'], (0, 0), 0⟩
    let b : Snapshot := ⟨['b'], (0, 0), 0⟩
    let events : List Event := [.step (.edit a), .step (.edit b), .expire, .expire]
    let steps := asSteps 500 events
    Waits 500 steps 0 1 ∧ RecordedAt 500 steps 1 2 ∧ (∀ j, ¬ RecordedAt 500 steps 0 j) ∧
      ((make {} 500 true).runEvents events).history = History.run {} [.record b false] := by
  intro a b events steps
  have hw : Waits 500 steps 0 1 := ⟨by decide,fun k hk hik => by omega⟩
  obtain ⟨hhistory,-,-,-,-,hdisplaced,-,-⟩ := history_runEvents_eq_schedule {} 500 events
  refine ⟨hw,by decide,hdisplaced 0 1 hw rfl,?_⟩
  have hschedule : schedule 500 steps 4 = [.record b false] := by decide
  rw [← hschedule]
  exact hhistory 4 (Nat.le_refl _)

end EditAssist.Session
