import EditAssist.Proofs.History.Timeline
import EditAssist.Session
import Mathlib.Algebra.GroupWithZero.Nat

/-! What a session with a clock makes of its steps. A schedule, which speaks of the steps alone, says
which edit is recorded at which step: at the first step behind it that asks for it, or by which
enough time has passed, unless another step takes it away before. The history of the session is
then that of a plain history which follows the schedule. -/
namespace EditAssist.Session
open History (Op)

/-- What can happen to a session. -/
inductive Step where
  | edit (s : Snapshot)
  | force (s : Snapshot)
  | flush
  | undo
  | redo
  | reset
  | advance (ms : ℕ)
  deriving DecidableEq, Repr

def step (s : Session) : Step → Session
  | .edit e => s.edit e
  | .force e => s.force e
  | .flush => s.flush.2
  | .undo => s.undo.2
  | .redo => s.redo.2
  | .reset => s.reset
  | .advance ms => s.advance ms

def run (s : Session) (steps : List Step) : Session := steps.foldl step s

namespace Step

/-- How much time passes in a step. -/
def duration : Step → ℕ
  | .advance ms => ms
  | _ => 0

/-- The edit that is made in a step, if it makes one. -/
def edit? : Step → Option Snapshot
  | .edit s => some s
  | _ => none

/-- Whether a step takes the place of an edit that waits, or drops it. -/
def displaces : Step → Bool
  | .edit _ | .force _ | .reset => true
  | _ => false

/-- Whether a step is one to record an edit at, if so much time has passed since it, that of the
step included. -/
def calls (debounce elapsed : ℕ) : Step → Bool
  | .flush | .undo | .redo => true
  | .advance _ => debounce ≤ elapsed
  | _ => false

/-- What a step asks of a history for itself. -/
def command : Step → Option Op
  | .force s => some (.record s true)
  | .undo => some .undo
  | .redo => some .redo
  | .reset => some .clear
  | _ => none

end Step

def editAt (steps : List Step) (i : ℕ) : Option Snapshot := steps[i]?.bind Step.edit?

/-- The time that passes behind step `i` and before step `j`. -/
def timeBetween (steps : List Step) (i j : ℕ) : ℕ :=
  (((steps.take j).drop (i + 1)).map Step.duration).sum

/-- Whether step `j` calls for the edit of step `i`. -/
def callsFor (debounce : ℕ) (steps : List Step) (i j : ℕ) : Bool :=
  steps[j]?.any (·.calls debounce (timeBetween steps i (j + 1)))

/-- The edit of step `i` waits until step `j`: no step between them calls for it or displaces it. -/
def Waits (debounce : ℕ) (steps : List Step) (i j : ℕ) : Prop :=
  i < j ∧ ∀ k < j, i < k → callsFor debounce steps i k = false ∧ steps[k]?.any (·.displaces) = false

/-- The edit of step `i` is recorded at step `j`. -/
def RecordedAt (debounce : ℕ) (steps : List Step) (i j : ℕ) : Prop :=
  Waits debounce steps i j ∧ callsFor debounce steps i j = true

instance (debounce : ℕ) (steps : List Step) (i j : ℕ) : Decidable (RecordedAt debounce steps i j) :=
  inferInstanceAs (Decidable ((i < j ∧ ∀ k < j, i < k → _ ∧ _) ∧ _))

/-- What is asked of a history at step `j`: to record the edit that is due, and what the step itself
asks for. -/
def commandsAt (debounce : ℕ) (steps : List Step) (j : ℕ) : List Op :=
  (List.range j).filterMap (fun i =>
      if RecordedAt debounce steps i j then (editAt steps i).map (.record · false) else none) ++
    (steps[j]?.bind Step.command).toList

/-- What is asked of a history at the first `n` steps. -/
def schedule (debounce : ℕ) (steps : List Step) (n : ℕ) : List Op :=
  (List.range n).flatMap (commandsAt debounce steps)

/-- No edit is recorded at two steps. -/
theorem RecordedAt.step_unique {debounce : ℕ} {steps : List Step} {i j k : ℕ}
    (hj : RecordedAt debounce steps i j) (hk : RecordedAt debounce steps i k) : j = k := by
  obtain ⟨⟨hij,hwj⟩,hcj⟩ := hj
  obtain ⟨⟨hik,hwk⟩,hck⟩ := hk
  rcases Nat.lt_trichotomy j k with h | h | h
  · exact absurd hcj (by simp [(hwk j h hij).1])
  · exact h
  · exact absurd hck (by simp [(hwj k h hik).1])

/-- An edit that another step displaces while it waits is not recorded at all. -/
theorem Waits.not_recordedAt {debounce : ℕ} {steps : List Step} {i k : ℕ}
    (hw : Waits debounce steps i k) (hk : steps[k]?.any (·.displaces) = true) (j : ℕ) :
    ¬ RecordedAt debounce steps i j := by
  rintro ⟨⟨hij,hwj⟩,hcj⟩
  rcases Nat.lt_trichotomy j k with h | rfl | h
  · exact absurd hcj (by simp [(hw.2 j h hij).1])
  · cases hs : steps[j]? with
    | none => simp [hs] at hk
    | some st => cases st <;> simp_all [callsFor, Step.displaces, Step.calls]
  · exact absurd hk (by simp [(hwj k h hw.1).2])

lemma displaces_of_editAt {steps : List Step} {i : ℕ} {e : Snapshot} (h : editAt steps i = some e) :
    steps[i]?.any (·.displaces) = true := by
  obtain ⟨st,hst,he⟩ := Option.bind_eq_some_iff.mp h
  cases st <;> simp_all [Step.edit?, Step.displaces]

/-- At most one edit waits. -/
theorem Waits.edit_unique {debounce : ℕ} {steps : List Step} {i i' n : ℕ} {e e' : Snapshot}
    (he : editAt steps i = some e) (he' : editAt steps i' = some e')
    (hw : Waits debounce steps i n) (hw' : Waits debounce steps i' n) : i = i' := by
  have hd := displaces_of_editAt he
  have hd' := displaces_of_editAt he'
  rcases Nat.lt_trichotomy i i' with h | h | h
  · exact absurd hd' (by simp [(hw.2 i' hw'.1 h).2])
  · exact h
  · exact absurd hd (by simp [(hw'.2 i hw.1 h).2])

lemma waits_succ {debounce : ℕ} {steps : List Step} {i n : ℕ} :
    Waits debounce steps i (n + 1) ↔ i = n ∨ Waits debounce steps i n ∧
      callsFor debounce steps i n = false ∧ steps[n]?.any (·.displaces) = false := by
  constructor
  · rintro ⟨hi,hw⟩
    rcases Nat.lt_succ_iff_lt_or_eq.mp hi with hi | hi
    · exact .inr ⟨⟨hi,fun k hk => hw k (by omega)⟩,hw n (by omega) hi⟩
    · exact .inl hi
  · rintro (rfl | ⟨⟨hi,hw⟩,hn⟩)
    · exact ⟨by omega,fun k hk hik => by omega⟩
    · refine ⟨by omega,fun k hk hik => ?_⟩
      rcases Nat.lt_succ_iff_lt_or_eq.mp hk with hk | rfl
      · exact hw k hk hik
      · exact hn

lemma timeBetween_succ {steps : List Step} {i n : ℕ} {st : Step} (hi : i < n)
    (hn : steps[n]? = some st) :
    timeBetween steps i (n + 1) = timeBetween steps i n + st.duration := by
  have hl : n < steps.length := (List.getElem?_eq_some_iff.mp hn).1
  have hd : i + 1 ≤ (steps.take n).length := by
    rw [List.length_take]
    omega
  unfold timeBetween
  rw [List.take_add_one, hn, Option.toList_some, List.drop_append_of_le_length hd]
  simp

lemma timeBetween_self (steps : List Step) (n : ℕ) : timeBetween steps n (n + 1) = 0 := by
  unfold timeBetween
  rw [List.drop_eq_nil_of_le (List.length_take_le _ _)]
  rfl

/-- What a step makes a session record: the edit that waits, if the step calls for it. -/
def due (s : Session) (st : Step) : List Op :=
  (s.waiting.filter fun w => st.calls s.debounce (w.elapsed + st.duration)).toList.map fun w =>
    .record w.snapshot false

/-- The history behind a step of a session with a clock: what is due is recorded, and then the step
has its way. -/
theorem history_step {s : Session} (hc : s.hasClock = true) (st : Step) :
    (s.step st).history = s.history.run (s.due st ++ st.command.toList) := by
  cases hw : s.waiting with
  | none =>
    cases st <;> simp [step, edit, flush, undo, redo, force, reset, advance, commit, due, hw, hc,
      Step.command, History.apply]
  | some w =>
    cases st with
    | advance ms =>
      by_cases hd : s.debounce ≤ w.elapsed + ms <;>
        simp [step, advance, commit, due, hw, hd, Step.command, Step.calls, Step.duration,
          Option.filter, History.apply]
    | _ => simp [step, edit, flush, undo, redo, force, reset, commit, due, hw, hc, Step.command,
        Step.calls, Option.filter, History.apply]

/-- The edit that waits behind a step of a session with a clock: the edit of the step, or the one
that waited before, older by the time of the step, unless it was called for or displaced. -/
theorem waiting_step {s : Session} (hc : s.hasClock = true) (st : Step) :
    (s.step st).waiting = (st.edit?.map fun e => ({ snapshot := e } : Waiting)).or
      ((s.waiting.filter fun w =>
          !st.displaces && !st.calls s.debounce (w.elapsed + st.duration)).map fun w =>
        { w with elapsed := w.elapsed + st.duration }) := by
  cases hw : s.waiting with
  | none =>
    cases st <;> simp [step, edit, flush, undo, redo, force, reset, advance, commit, hw, hc, Step.edit?]
  | some w =>
    cases st with
    | advance ms =>
      by_cases hd : s.debounce ≤ w.elapsed + ms <;>
        simp [step, advance, commit, hw, hd, Step.edit?, Step.calls, Step.displaces, Step.duration,
          Option.filter]
    | _ => simp [step, edit, flush, undo, redo, force, reset, commit, hw, hc, Step.edit?, Step.calls,
        Step.displaces, Option.filter]

lemma hasClock_step (s : Session) (st : Step) : (s.step st).hasClock = s.hasClock := by
  cases hw : s.waiting <;> cases st <;>
    simp only [step, edit, flush, undo, redo, force, reset, advance, commit, hw] <;>
    split_ifs <;> rfl

lemma debounce_step (s : Session) (st : Step) : (s.step st).debounce = s.debounce := by
  cases hw : s.waiting <;> cases st <;>
    simp only [step, edit, flush, undo, redo, force, reset, advance, commit, hw] <;>
    split_ifs <;> rfl

/-- A session that follows the schedule, behind the first `n` steps. -/
structure Follows (limits : History.Limits) (debounce : ℕ) (steps : List Step) (n : ℕ)
    (s : Session) : Prop where
  hasClock : s.hasClock = true
  debounce_eq : s.debounce = debounce
  history_eq : s.history = History.run { limits } (schedule debounce steps n)
  waiting_of_waits : ∀ i e, editAt steps i = some e → Waits debounce steps i n →
    s.waiting = some ⟨e, timeBetween steps i n⟩
  waits_of_waiting : ∀ w, s.waiting = some w → ∃ i, editAt steps i = some w.snapshot ∧
    Waits debounce steps i n

lemma follows_make (limits : History.Limits) (debounce : ℕ) (steps : List Step) :
    Follows limits debounce steps 0 (make limits debounce true) where
  hasClock := rfl
  debounce_eq := rfl
  history_eq := rfl
  waiting_of_waits i e _ hw := absurd hw.1 (Nat.not_lt_zero i)
  waits_of_waiting w hw := by simp [make] at hw

lemma filterMap_range_eq_singleton {α : Type} {f : ℕ → Option α} {n i : ℕ} {a : α} (hi : i < n)
    (ha : f i = some a) (h : ∀ k, k ≠ i → f k = none) : (List.range n).filterMap f = [a] := by
  induction n with
  | zero => omega
  | succ n ih =>
    rw [List.range_succ, List.filterMap_append]
    by_cases hn : i = n
    · subst hn
      have hnil : (List.range i).filterMap f = [] := by
        apply List.filterMap_eq_nil_iff.mpr
        intro k hk
        exact h k (Nat.ne_of_lt (List.mem_range.mp hk))
      simp [hnil, ha]
    · rw [ih (by omega)]
      simp [h n (Ne.symm hn)]

/-- What the schedule has recorded at a step is what the step makes the session record. -/
lemma Follows.commandsAt_eq {limits : History.Limits} {debounce : ℕ} {steps : List Step} {n : ℕ}
    {s : Session} (hf : Follows limits debounce steps n s) {st : Step} (hst : steps[n]? = some st) :
    commandsAt debounce steps n = s.due st ++ st.command.toList := by
  unfold commandsAt
  rw [hst, Option.bind_some]
  congr 1
  by_cases hex : ∃ i e, editAt steps i = some e ∧ RecordedAt debounce steps i n
  · obtain ⟨i,e,he,hr⟩ := hex
    have hw := hf.waiting_of_waits i e he hr.1
    have hc : st.calls s.debounce (timeBetween steps i n + st.duration) = true := by
      have hc := hr.2
      rwa [callsFor, hst, Option.any_some, timeBetween_succ hr.1.1 hst, ← hf.debounce_eq] at hc
    have hdue : s.due st = [.record e false] := by simp [due, hw, Option.filter, hc]
    rw [hdue]
    apply filterMap_range_eq_singleton hr.1.1
    · rw [if_pos hr, he, Option.map_some]
    · intro k hk
      split_ifs with hrk
      · cases hek : editAt steps k with
        | none => rfl
        | some e' => exact absurd (Waits.edit_unique hek he hrk.1 hr.1) hk
      · rfl
  · have hdue : s.due st = [] := by
      cases hw : s.waiting with
      | none => simp [due, hw]
      | some w =>
        obtain ⟨i,he,hwi⟩ := hf.waits_of_waiting w hw
        have hel := hf.waiting_of_waits i _ he hwi
        have hc : callsFor debounce steps i n = false := by
          apply Bool.eq_false_iff.mpr
          intro hc
          exact hex ⟨i,w.snapshot,he,hwi,hc⟩
        rw [callsFor, hst, Option.any_some, timeBetween_succ hwi.1 hst, ← hf.debounce_eq] at hc
        simp [due, hel, Option.filter, hc]
    rw [hdue]
    apply List.filterMap_eq_nil_iff.mpr
    intro i hi
    split_ifs with hr
    · cases he : editAt steps i with
      | none => rfl
      | some e => exact absurd ⟨i,e,he,hr⟩ hex
    · rfl

/-- One step keeps to the schedule. -/
theorem Follows.step {limits : History.Limits} {debounce : ℕ} {steps : List Step} {n : ℕ}
    {s : Session} (hf : Follows limits debounce steps n s) {st : Step} (hst : steps[n]? = some st) :
    Follows limits debounce steps (n + 1) (s.step st) where
  hasClock := (hasClock_step s st).trans hf.hasClock
  debounce_eq := (debounce_step s st).trans hf.debounce_eq
  history_eq := by
    rw [history_step hf.hasClock, hf.history_eq, ← History.run_append, ← hf.commandsAt_eq hst,
      schedule, schedule, List.range_succ, List.flatMap_append, List.flatMap_singleton]
  waiting_of_waits i e he hw := by
    rw [waiting_step hf.hasClock]
    rcases waits_succ.mp hw with rfl | ⟨hwi,hc,hd⟩
    · rw [editAt, hst, Option.bind_some] at he
      rw [he, timeBetween_self]
      rfl
    · have hne : st.edit? = none := by
        cases st <;> simp_all [Step.edit?, Step.displaces]
      rw [hst, Option.any_some] at hd
      rw [callsFor, hst, Option.any_some, timeBetween_succ hwi.1 hst, ← hf.debounce_eq] at hc
      rw [hne, hf.waiting_of_waits i e he hwi, timeBetween_succ hwi.1 hst]
      simp [Option.filter, hd, hc]
  waits_of_waiting w hw := by
    rw [waiting_step hf.hasClock] at hw
    cases he : st.edit? with
    | some e =>
      rw [he] at hw
      cases hw
      exact ⟨n,by rw [editAt, hst, Option.bind_some, he],waits_succ.mpr (.inl rfl)⟩
    | none =>
      rw [he, Option.map_none, Option.none_or] at hw
      obtain ⟨w',hw',rfl⟩ := Option.map_eq_some_iff.mp hw
      obtain ⟨hw',hp⟩ := Option.filter_eq_some_iff.mp hw'
      obtain ⟨i,hi,hwi⟩ := hf.waits_of_waiting w' hw'
      have hel := hf.waiting_of_waits i _ hi hwi
      rw [hw'] at hel
      have hel' : w'.elapsed = timeBetween steps i n := congrArg Waiting.elapsed (Option.some.inj hel)
      simp only [Bool.and_eq_true, Bool.not_eq_true', hf.debounce_eq, hel'] at hp
      refine ⟨i,hi,waits_succ.mpr (.inr ⟨hwi,?_,?_⟩)⟩
      · rw [callsFor, hst, Option.any_some, timeBetween_succ hwi.1 hst]
        exact hp.2
      · rw [hst, Option.any_some]
        exact hp.1

/-- A run keeps to the schedule at each of its steps. -/
theorem follows_run (limits : History.Limits) (debounce : ℕ) (steps : List Step) {n : ℕ}
    (hn : n ≤ steps.length) :
    Follows limits debounce steps n (run (make limits debounce true) (steps.take n)) := by
  induction n with
  | zero => exact follows_make limits debounce steps
  | succ n ih =>
    have hst : steps[n]? = some (steps[n]) := List.getElem?_eq_getElem hn
    have hf := (ih (by omega)).step hst
    rw [List.take_add_one, hst, Option.toList_some, run, List.foldl_append]
    exact hf

/-- Debouncing: behind any number of steps the history of a session with a clock is that of a plain
history which has followed the schedule so far. The schedule records an edit at one step only, one
edit at a step, and never an edit that was displaced while it waited. -/
theorem history_run_eq_schedule (limits : History.Limits) (debounce : ℕ) (steps : List Step) :
    (∀ n ≤ steps.length, (run (make limits debounce true) (steps.take n)).history =
      History.run { limits } (schedule debounce steps n)) ∧
    (∀ i j k, RecordedAt debounce steps i j → RecordedAt debounce steps i k → j = k) ∧
    (∀ i i' j e e', editAt steps i = some e → editAt steps i' = some e' →
      RecordedAt debounce steps i j → RecordedAt debounce steps i' j → i = i') ∧
    ∀ i k, Waits debounce steps i k → steps[k]?.any (·.displaces) = true →
      ∀ j, ¬ RecordedAt debounce steps i j := by
  refine ⟨?_,?_,?_,?_⟩
  · intro n hn
    exact (follows_run limits debounce steps hn).history_eq
  · intro i j k hj hk
    exact hj.step_unique hk
  · intro i i' j e e' he he' hr hr'
    exact Waits.edit_unique he he' hr.1 hr'.1
  · intro i k hw hd j
    exact hw.not_recordedAt hd j

example :
    let steps : List Step := [.edit ⟨['a'], (0, 0), 0⟩, .advance 300, .edit ⟨['b'], (0, 0), 0⟩,
      .advance 300, .advance 200, .undo]
    schedule 500 steps 6 = [.record ⟨['b'], (0, 0), 0⟩ false, .undo] := by decide

end EditAssist.Session
