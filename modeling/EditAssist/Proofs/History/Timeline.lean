import EditAssist.History
import Mathlib.Data.List.Basic

/-! The timeline of a history: the snapshots before the current one, the current one and those after
it, in the order of time. Recording writes a timeline; undo and redo only walk on it, one place at a
time, and stay where they are at its ends. What makes the walk exact is that the snapshots before
and after the current one together never exceed the limit, so that redo, which pushes onto the
bounded stack, never forgets anything. -/
namespace EditAssist.History

/-- What can be asked of a history. -/
inductive Op where
  | record (s : Snapshot) (force : Bool)
  | undo
  | redo
  | clear
  deriving DecidableEq, Repr

def apply (h : History) : Op → History
  | .record s force => (h.record s force).2
  | .undo => h.undo.2
  | .redo => h.redo.2
  | .clear => h.clear

/-- The history that a sequence of operations leaves behind. -/
def run (h : History) (ops : List Op) : History := ops.foldl apply h

@[simp] lemma run_nil (h : History) : h.run [] = h := rfl

@[simp] lemma run_append (h : History) (xs ys : List Op) : h.run (xs ++ ys) = (h.run xs).run ys :=
  List.foldl_append

@[simp] lemma run_cons (h : History) (op : Op) (ops : List Op) :
    h.run (op :: ops) = (h.apply op).run ops := rfl

/-- All snapshots in the order of time. -/
def timeline (h : History) : List Snapshot := h.undos.reverse ++ h.current.toList ++ h.redos

/-- The place of the current snapshot on the timeline. -/
def cursor (h : History) : ℕ := h.undos.length

/-- What holds of every history that operations can make. -/
structure Sound (h : History) : Prop where
  stacks_eq_nil : h.current = none → h.undos = [] ∧ h.redos = []
  depth_le : h.undos.length + h.redos.length ≤ h.limits.maxUndo

lemma sound_empty (limits : Limits) : Sound { limits } := ⟨fun _ => ⟨rfl,rfl⟩,Nat.zero_le _⟩

lemma Sound.exists_current {h : History} (hs : h.Sound) (hne : h.undos ≠ [] ∨ h.redos ≠ []) :
    ∃ s, h.current = some s := by
  cases hc : h.current with
  | some s => exact ⟨s,rfl⟩
  | none =>
    obtain ⟨hu,hr⟩ := hs.stacks_eq_nil hc
    rcases hne with hne | hne <;> contradiction

/-- Undo, spelled out: the current snapshot is the next to redo. -/
lemma Sound.undo_eq {h : History} (hs : h.Sound) {u : Snapshot} {us : List Snapshot}
    (hu : h.undos = u :: us) :
    ∃ s, h.current = some s ∧
      h.undo = (some u, { h with undos := us, current := some u, redos := s :: h.redos }) := by
  obtain ⟨s,hc⟩ := hs.exists_current (.inl (by simp [hu]))
  refine ⟨s,hc,?_⟩
  rw [undo, hu]
  simp [hc]

/-- Redo, spelled out: nothing is forgotten when the current snapshot becomes the next to undo. -/
lemma Sound.redo_eq {h : History} (hs : h.Sound) {r : Snapshot} {rs : List Snapshot}
    (hr : h.redos = r :: rs) :
    ∃ s, h.current = some s ∧
      h.redo = (some r, { h with undos := s :: h.undos, current := some r, redos := rs }) := by
  obtain ⟨s,hc⟩ := hs.exists_current (.inr (by simp [hr]))
  have hd := hs.depth_le
  have hl : (s :: h.undos).length ≤ h.limits.maxUndo := by
    rw [hr, List.length_cons] at hd
    rw [List.length_cons]
    omega
  refine ⟨s,hc,?_⟩
  rw [redo, hr]
  simp only [leaveCurrent, hc, pushUndo, List.take_of_length_le hl]

lemma Sound.record {h : History} (hs : h.Sound) (s : Snapshot) (force : Bool) :
    (h.record s force).2.Sound := by
  have hd := hs.depth_le
  unfold History.record
  split_ifs
  · refine ⟨fun hc => by simp at hc,?_⟩
    cases hc : h.current with
    | none =>
      simp only [leaveCurrent, hc, List.length_nil]
      omega
    | some old =>
      simp only [leaveCurrent, hc, pushUndo, List.length_nil, Nat.add_zero]
      exact List.length_take_le _ _
  · exact ⟨fun hc => by simp at hc,hd⟩

lemma Sound.undo {h : History} (hs : h.Sound) : h.undo.2.Sound := by
  cases hu : h.undos with
  | nil => rwa [History.undo, hu]
  | cons u us =>
    obtain ⟨s,-,he⟩ := hs.undo_eq hu
    have hd := hs.depth_le
    rw [hu, List.length_cons] at hd
    rw [he]
    refine ⟨fun hc => by simp at hc,?_⟩
    simp only [List.length_cons]
    omega

lemma Sound.redo {h : History} (hs : h.Sound) : h.redo.2.Sound := by
  cases hr : h.redos with
  | nil => rwa [History.redo, hr]
  | cons r rs =>
    obtain ⟨s,-,he⟩ := hs.redo_eq hr
    have hd := hs.depth_le
    rw [hr, List.length_cons] at hd
    rw [he]
    refine ⟨fun hc => by simp at hc,?_⟩
    simp only [List.length_cons]
    omega

theorem Sound.apply {h : History} (hs : h.Sound) (op : Op) : (h.apply op).Sound := by
  cases op with
  | record s force => exact hs.record s force
  | undo => exact hs.undo
  | redo => exact hs.redo
  | clear => exact sound_empty h.limits

theorem Sound.run {h : History} (hs : h.Sound) (ops : List Op) : (h.run ops).Sound := by
  induction ops generalizing h with
  | nil => exact hs
  | cons op ops ih => exact ih (hs.apply op)

@[simp] lemma limits_apply (h : History) (op : Op) : (h.apply op).limits = h.limits := by
  cases op with
  | record s force => simp only [History.apply, History.record]; split_ifs <;> rfl
  | undo => simp only [History.apply, History.undo]; split <;> rfl
  | redo => simp only [History.apply, History.redo]; split <;> rfl
  | clear => rfl

@[simp] lemma limits_run (h : History) (ops : List Op) : (h.run ops).limits = h.limits := by
  induction ops generalizing h with
  | nil => rfl
  | cons op ops ih => rw [run_cons, ih, limits_apply]

/-- The history that stands at a place of a timeline. -/
def placedAt (limits : Limits) (τ : List Snapshot) (c : ℕ) : History :=
  { limits, undos := (τ.take c).reverse, current := τ[c]?, redos := τ.drop (c + 1) }

lemma placedAt_append (limits : Limits) (us : List Snapshot) (s : Snapshot) (rs : List Snapshot) :
    placedAt limits (us.reverse ++ s :: rs) us.length =
      { limits, undos := us, current := some s, redos := rs } := by
  have hd : (us.reverse ++ s :: rs).drop (us.length + 1) = rs := by
    rw [← List.length_reverse, List.drop_length_add_append, List.drop_one, List.tail_cons]
  simp [placedAt, hd]

/-- Timeline and cursor tell everything about a sound history. -/
theorem Sound.eq_placedAt {h : History} (hs : h.Sound) :
    h = placedAt h.limits h.timeline h.cursor := by
  obtain ⟨limits,us,current,rs⟩ := h
  cases current with
  | none =>
    obtain ⟨rfl,rfl⟩ : us = [] ∧ rs = [] := hs.stacks_eq_nil rfl
    rfl
  | some s =>
    rw [timeline, Option.toList_some, List.append_assoc, List.singleton_append, cursor,
      placedAt_append]

/-- A call that goes back or forward. -/
inductive Move where
  | back
  | forward
  deriving DecidableEq, Repr

/-- The place that a move leads to from the place `c` of `n`, unless it would leave them. -/
def Move.target (n c : ℕ) : Move → Option ℕ
  | .back => if c = 0 then none else some (c - 1)
  | .forward => if c + 1 < n then some (c + 1) else none

def move (h : History) : Move → Option Snapshot × History
  | .back => h.undo
  | .forward => h.redo

/-- The answers to calls made one after another, and the history behind them. -/
def walk (h : History) : List Move → List (Option Snapshot) × History
  | [] => ([], h)
  | m :: ms => ((h.move m).1 :: ((h.move m).2.walk ms).1, ((h.move m).2.walk ms).2)

/-- A walk on a fixed timeline from the place `c`: what is seen at each place that a move leads to,
nothing where a move leads nowhere, and the last place. -/
def clampedWalk (τ : List Snapshot) (c : ℕ) : List Move → List (Option Snapshot) × ℕ
  | [] => ([], c)
  | m :: ms =>
    let next := m.target τ.length c
    let rest := clampedWalk τ (next.getD c) ms
    (next.bind (τ[·]?) :: rest.1, rest.2)

/-- What one call can do: nothing, if the move has no target, or else cut the same timeline at the
target and answer the snapshot there. -/
theorem Sound.move_cases {h : History} (hs : h.Sound) (m : Move) :
    (m.target h.timeline.length h.cursor = none ∧ h.move m = (none, h)) ∨
    ∃ us s rs, m.target h.timeline.length h.cursor = some us.length ∧
      h.timeline = us.reverse ++ s :: rs ∧
      h.move m = (some s, { h with undos := us, current := some s, redos := rs }) := by
  cases m with
  | back =>
    cases hu : h.undos with
    | nil =>
      left
      exact ⟨if_pos (by rw [cursor, hu, List.length_nil]),by rw [move, History.undo, hu]⟩
    | cons u us =>
      obtain ⟨s,hc,he⟩ := hs.undo_eq hu
      right
      refine ⟨us,u,s :: h.redos,?_,?_,he⟩
      · simp [Move.target, cursor, hu]
      · simp [timeline, hu, hc]
  | forward =>
    cases hr : h.redos with
    | nil =>
      left
      refine ⟨if_neg ?_,by rw [move, History.redo, hr]⟩
      cases hc : h.current <;> simp [cursor, timeline, hr, hc]
    | cons r rs =>
      obtain ⟨s,hc,he⟩ := hs.redo_eq hr
      right
      refine ⟨s :: h.undos,r,rs,?_,?_,he⟩
      · simp [Move.target, cursor, timeline, hr, hc]
      · simp [timeline, hr, hc]

lemma Sound.move {h : History} (hs : h.Sound) (m : Move) : (h.move m).2.Sound := by
  cases m with
  | back => exact hs.undo
  | forward => exact hs.redo

lemma limits_move (h : History) (m : Move) : (h.move m).2.limits = h.limits := by
  cases m with
  | back => exact limits_apply h .undo
  | forward => exact limits_apply h .redo

lemma Sound.timeline_move {h : History} (hs : h.Sound) (m : Move) :
    (h.move m).2.timeline = h.timeline := by
  rcases hs.move_cases m with ⟨-,he⟩ | ⟨us,s,rs,-,hτ,he⟩
  · rw [he]
  · rw [he, hτ]
    simp [timeline]

lemma Sound.cursor_move {h : History} (hs : h.Sound) (m : Move) :
    (h.move m).2.cursor = (m.target h.timeline.length h.cursor).getD h.cursor := by
  rcases hs.move_cases m with ⟨ht,he⟩ | ⟨us,s,rs,ht,-,he⟩
  · rw [he, ht, Option.getD_none]
  · rw [he, ht, Option.getD_some, cursor]

/-- One call is one step of the walk: it answers the snapshot at the target of the move, if that has
one, and leaves the cursor there. -/
theorem Sound.move_eq {h : History} (hs : h.Sound) (m : Move) :
    h.move m = ((m.target h.timeline.length h.cursor).bind (h.timeline[·]?),
      placedAt h.limits h.timeline ((m.target h.timeline.length h.cursor).getD h.cursor)) := by
  rcases hs.move_cases m with ⟨ht,he⟩ | ⟨us,s,rs,ht,hτ,he⟩
  · rw [he, ht, Option.bind_none, Option.getD_none, ← hs.eq_placedAt]
  · rw [he, ht, Option.bind_some, Option.getD_some, hτ, placedAt_append]
    simp

/-- Any number of calls is a walk on the timeline. -/
theorem Sound.walk_eq {h : History} (hs : h.Sound) (ms : List Move) :
    h.walk ms = ((clampedWalk h.timeline h.cursor ms).1,
      placedAt h.limits h.timeline (clampedWalk h.timeline h.cursor ms).2) := by
  induction ms generalizing h with
  | nil => rw [walk, clampedWalk, ← hs.eq_placedAt]
  | cons m ms ih =>
    have hw := ih (hs.move m)
    rw [hs.timeline_move, hs.cursor_move, limits_move] at hw
    rw [walk, hw, clampedWalk, hs.move_eq]

/-- What was undone can be redone, which restores the history. -/
theorem Sound.redo_undo {h : History} (hs : h.Sound) (hu : h.undos ≠ []) :
    h.undo.2.redo = (h.current, h) := by
  obtain ⟨u,us,hu⟩ := List.exists_cons_of_ne_nil hu
  obtain ⟨s,hc,he⟩ := hs.undo_eq hu
  have hs' := hs.undo
  rw [he] at hs' ⊢
  obtain ⟨t,ht,he'⟩ := hs'.redo_eq rfl
  cases ht
  rw [he', hc, ← hu]
  simp [← hc]

/-- What was redone can be undone, which restores the history. -/
theorem Sound.undo_redo {h : History} (hs : h.Sound) (hr : h.redos ≠ []) :
    h.redo.2.undo = (h.current, h) := by
  obtain ⟨r,rs,hr⟩ := List.exists_cons_of_ne_nil hr
  obtain ⟨s,hc,he⟩ := hs.redo_eq hr
  have hs' := hs.redo
  rw [he] at hs' ⊢
  obtain ⟨t,ht,he'⟩ := hs'.undo_eq rfl
  cases ht
  rw [he', hc, ← hr]
  simp [← hc]

/-- Undo and redo walk on an unchanged timeline, in every state that operations can lead to. Without
a current snapshot there is none at all; undo and redo together keep to the limit, so redo forgets
nothing; each goes one place back or forward while it can, and else does nothing. So calls of any
number are a walk between the ends of the timeline, and a call that moved is taken back by its
opposite. -/
theorem run_walks_timeline (limits : Limits) (ops : List Op) :
    let h := run { limits } ops
    (h.current = none → h.undos = [] ∧ h.redos = []) ∧
    h.undos.length + h.redos.length ≤ limits.maxUndo ∧
    (h.redos ≠ [] → h.redo.2.undos = h.current.toList ++ h.undos) ∧
    h.undo.2.timeline = h.timeline ∧
    h.redo.2.timeline = h.timeline ∧
    (h.undos ≠ [] → ∃ s, h.timeline[h.cursor - 1]? = some s ∧ h.undo.1 = some s ∧
      h.undo.2.cursor + 1 = h.cursor) ∧
    (h.redos ≠ [] → ∃ s, h.timeline[h.cursor + 1]? = some s ∧ h.redo.1 = some s ∧
      h.redo.2.cursor = h.cursor + 1) ∧
    (h.undos = [] → h.undo = (none, h)) ∧
    (h.redos = [] → h.redo = (none, h)) ∧
    (∀ ms, h.walk ms = ((clampedWalk h.timeline h.cursor ms).1,
      placedAt limits h.timeline (clampedWalk h.timeline h.cursor ms).2)) ∧
    (h.undos ≠ [] → h.undo.2.redo = (h.current, h)) ∧
    (h.redos ≠ [] → h.redo.2.undo = (h.current, h)) := by
  intro h
  have hs : h.Sound := (sound_empty limits).run ops
  have hl : h.limits = limits := limits_run { limits } ops
  refine ⟨hs.stacks_eq_nil,hl ▸ hs.depth_le,?_,hs.timeline_move .back,hs.timeline_move .forward,?_,?_,
    ?_,?_,?_,hs.redo_undo,hs.undo_redo⟩
  · intro hr
    obtain ⟨r,rs,hr⟩ := List.exists_cons_of_ne_nil hr
    obtain ⟨s,hc,he⟩ := hs.redo_eq hr
    rw [he, hc, Option.toList_some, List.singleton_append]
  · intro hu
    obtain ⟨u,us,hu⟩ := List.exists_cons_of_ne_nil hu
    obtain ⟨s,hc,he⟩ := hs.undo_eq hu
    refine ⟨u,?_,by rw [he],by simp [he, cursor, hu]⟩
    simp [timeline, cursor, hu, hc]
  · intro hr
    obtain ⟨r,rs,hr⟩ := List.exists_cons_of_ne_nil hr
    obtain ⟨s,hc,he⟩ := hs.redo_eq hr
    refine ⟨r,?_,by rw [he],by simp [he, cursor]⟩
    simp [timeline, cursor, hr, hc]
  · intro hu
    rw [History.undo, hu]
  · intro hr
    rw [History.redo, hr]
  · intro ms
    rw [← hl]
    exact hs.walk_eq ms

end EditAssist.History
