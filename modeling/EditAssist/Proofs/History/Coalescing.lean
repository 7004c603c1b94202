import EditAssist.Proofs.History.Timeline
import Mathlib.Data.List.DropRight
import Mathlib.Data.List.SplitBy

/-! What a sequence of records leaves behind. A record that makes no step joins the burst of the
record before it, and each burst is one step: the last snapshot of a burst is what undo comes back
to, as far as the limit goes. A record with another selection joins the burst before it only if the
number of characters and the number of lines stay what they were and little time has passed; then
the snapshot before it is lost, whether or not the texts are the same. -/
namespace EditAssist.History

section Lists
variable {α : Type*} {r : α → α → Bool} {a b : α} {l g : List α} {gs : List (List α)}

/-- An element that is related to the next one belongs to its run. -/
lemma splitBy_cons_of_rel (h : r a b = true) (hl : (b :: l).splitBy r = g :: gs) :
    (a :: b :: l).splitBy r = (a :: g) :: gs := by
  obtain ⟨hflat,hnil,hchain,hbetween⟩ := List.splitBy_eq_iff.mp hl
  obtain ⟨g',rfl⟩ : ∃ g', g = b :: g' := by
    cases g with
    | nil => simp at hnil
    | cons c g' =>
      obtain ⟨rfl,-⟩ := List.cons.inj hflat
      exact ⟨g',rfl⟩
  refine List.splitBy_eq_iff.mpr ⟨by simp [hflat],?_,?_,?_⟩
  · simpa using hnil
  · obtain ⟨hg,hgs⟩ := List.forall_mem_cons.mp hchain
    exact List.forall_mem_cons.mpr ⟨List.isChain_cons_cons.mpr ⟨h,hg⟩,hgs⟩
  · cases gs with
    | nil => exact List.isChain_singleton _
    | cons g₂ gs =>
      obtain ⟨⟨ha,hb,hr⟩,hrest⟩ := List.isChain_cons_cons.mp hbetween
      refine List.isChain_cons_cons.mpr ⟨⟨List.cons_ne_nil _ _,hb,?_⟩,hrest⟩
      rwa [List.getLast_cons ha]

/-- One that is not makes a run of its own. -/
lemma splitBy_cons_of_not_rel (h : r a b = false) :
    (a :: b :: l).splitBy r = [a] :: (b :: l).splitBy r :=
  List.splitBy_append_cons (l := [a]) l (by simpa using h)

lemma take_append_take (n : ℕ) (xs ys : List α) :
    (xs ++ ys.take n).take n = (xs ++ ys).take n := by
  rw [List.take_append, List.take_append, List.take_take, Nat.min_eq_left (Nat.sub_le _ _)]

end Lists

/-- A snapshot and whether it is recorded by force. -/
abbrev Record := Snapshot × Bool

/-- Whether a record joins the burst of the one before it. -/
def Limits.joins (l : Limits) (a b : Record) : Bool := !b.2 && !l.significant a.1 b.1

/-- The bursts of some records: longest runs in which each record but the first joins the one
before it. -/
def Limits.bursts (l : Limits) (rs : List Record) : List (List Record) := rs.splitBy l.joins

/-- The answers to records made one after another, and the history behind them. -/
def recordAll (h : History) : List Record → List Bool × History
  | [] => ([], h)
  | r :: rs =>
    let next := h.record r.1 r.2
    let rest := next.2.recordAll rs
    (next.1 :: rest.1, rest.2)

/-- The last snapshots of some bursts. -/
def finals (gs : List (List Record)) : List Snapshot := gs.filterMap (·.getLast?.map Prod.fst)

/-- Yes for the first record of a burst and no for each other one. -/
def onlyFirst : List Record → List Bool
  | [] => []
  | _ :: rs => true :: rs.map fun _ => false

section Run
variable {h : History} {p s : Snapshot} {f force : Bool}

/-- A record makes a step exactly if it does not join. -/
lemma makesStep_eq_not_joins (hc : h.current = some p) (f : Bool) :
    h.makesStep s force = !h.limits.joins (p, f) (s, force) := by
  simp [makesStep, hc, Limits.joins]

lemma record_of_joins (hc : h.current = some p) (hj : h.limits.joins (p, f) (s, force) = true) :
    h.record s force = (false, { h with current := some s }) := by
  rw [record, makesStep_eq_not_joins hc f, hj]
  rfl

lemma record_of_not_joins (hc : h.current = some p)
    (hj : h.limits.joins (p, f) (s, force) = false) :
    h.record s force =
      (true, { h with undos := (p :: h.undos).take h.limits.maxUndo, current := some s, redos := [] }) := by
  rw [record, makesStep_eq_not_joins hc f, hj]
  simp [leaveCurrent, hc, pushUndo]

lemma Limits.bursts_ne_nil (l : Limits) (r : Record) (rs : List Record) : l.bursts (r :: rs) ≠ [] :=
  List.splitBy_ne_nil.mpr (List.cons_ne_nil r rs)

lemma Limits.ne_nil_of_mem_bursts {l : Limits} {rs g : List Record} (h : g ∈ l.bursts rs) : g ≠ [] :=
  List.ne_nil_of_mem_splitBy h

lemma Limits.bursts_cons_of_joins {l : Limits} {a b : Record} (h : l.joins a b = true)
    (rs : List Record) :
    ∃ r g gs, l.bursts (b :: rs) = (r :: g) :: gs ∧
      l.bursts (a :: b :: rs) = (a :: r :: g) :: gs := by
  obtain ⟨g,gs,hgs⟩ := List.exists_cons_of_ne_nil (l.bursts_ne_nil b rs)
  have hg : g ∈ l.bursts (b :: rs) := by simp [hgs]
  obtain ⟨r,g,rfl⟩ := List.exists_cons_of_ne_nil (ne_nil_of_mem_bursts hg)
  exact ⟨r,g,gs,hgs,splitBy_cons_of_rel h hgs⟩

lemma Limits.bursts_cons_of_not_joins {l : Limits} {a b : Record} (h : l.joins a b = false)
    (rs : List Record) : l.bursts (a :: b :: rs) = [a] :: l.bursts (b :: rs) :=
  splitBy_cons_of_not_rel h

/-- The first answer to the records of some bursts is yes. -/
lemma flatMap_onlyFirst_bursts (l : Limits) (r : Record) (rs : List Record) :
    (l.bursts (r :: rs)).flatMap onlyFirst =
      true :: ((l.bursts (r :: rs)).flatMap onlyFirst).tail := by
  obtain ⟨g,gs,hgs⟩ := List.exists_cons_of_ne_nil (l.bursts_ne_nil r rs)
  have hg : g ∈ l.bursts (r :: rs) := by simp [hgs]
  obtain ⟨r',g,rfl⟩ := List.exists_cons_of_ne_nil (Limits.ne_nil_of_mem_bursts hg)
  rw [hgs, List.flatMap_cons]
  rfl

/-- As many snapshots as bursts are the last of one. -/
lemma length_finals {gs : List (List Record)} (h : ∀ g ∈ gs, g ≠ []) :
    (finals gs).length = gs.length := by
  induction gs with
  | nil => rfl
  | cons g gs ih =>
    obtain ⟨hg,hgs⟩ := List.forall_mem_cons.mp h
    have hlast : g.getLast? = some (g.getLast hg) := List.getLast?_eq_some_getLast hg
    have hcons : finals (g :: gs) = (g.getLast hg).1 :: finals gs := by
      rw [finals, List.filterMap_cons, hlast]
      rfl
    rw [hcons, List.length_cons, ih hgs, List.length_cons]

lemma finals_bursts_ne_nil (l : Limits) (r : Record) (rs : List Record) :
    finals (l.bursts (r :: rs)) ≠ [] := by
  have hne : ∀ g ∈ l.bursts (r :: rs), g ≠ [] := fun g hg => Limits.ne_nil_of_mem_bursts hg
  have hlen := length_finals hne
  have hpos := List.length_pos_of_ne_nil (l.bursts_ne_nil r rs)
  exact List.ne_nil_of_length_pos (by omega)

/-- What records leave of a history that has a current snapshot and nothing to redo: the current
snapshot opens the first burst, and the last snapshots of all bursts but the last one are stacked
on what was there. -/
theorem recordAll_eq (hc : h.current = some p) (hr : h.redos = [])
    (hd : h.undos.length ≤ h.limits.maxUndo) (f : Bool) (rs : List Record) :
    let gs := h.limits.bursts ((p, f) :: rs)
    h.recordAll rs = ((gs.flatMap onlyFirst).tail,
      { h with
        undos := ((finals gs).dropLast.reverse ++ h.undos).take h.limits.maxUndo
        current := (finals gs).getLast? }) := by
  induction rs generalizing h p f with
  | nil =>
    have hgs : h.limits.bursts [(p, f)] = [[(p, f)]] := rfl
    have hfinals : finals [[(p, f)]] = [p] := rfl
    simp [recordAll, hgs, hfinals, onlyFirst, List.take_of_length_le hd, ← hc]
  | cons r rs ih =>
    obtain ⟨s,force⟩ := r
    cases hj : h.limits.joins (p, f) (s, force) with
    | true =>
      obtain ⟨r',g,gs,hgs,hgs'⟩ := Limits.bursts_cons_of_joins hj rs
      have hrun := ih (h := { h with current := some s }) rfl hr hd force
      have hfinals : finals (((p, f) :: r' :: g) :: gs) = finals ((r' :: g) :: gs) := by
        simp only [finals, List.filterMap_cons, List.getLast?_cons_cons]
      simp only [hgs] at hrun
      simp only [recordAll, record_of_joins hc hj, hrun, hgs', hfinals]
      rfl
    | false =>
      have hd' : ((p :: h.undos).take h.limits.maxUndo).length ≤ h.limits.maxUndo :=
        List.length_take_le _ _
      have hrun := ih (h := { h with
        undos := (p :: h.undos).take h.limits.maxUndo, current := some s, redos := [] }) rfl rfl hd' force
      have hne := finals_bursts_ne_nil h.limits (s, force) rs
      have hfinals : ∀ gs, finals ([(p, f)] :: gs) = p :: finals gs := fun _ => rfl
      simp only [recordAll, record_of_not_joins hc hj, hrun, Limits.bursts_cons_of_not_joins hj,
        hfinals, List.dropLast_cons_of_ne_nil hne, List.getLast?_cons_of_ne_nil hne]
      rw [List.flatMap_cons, List.reverse_cons, List.append_assoc, List.singleton_append, hr,
        ← flatMap_onlyFirst_bursts, take_append_take]
      rfl

end Run

/-- Going back again and again answers what is stacked, the latest first, and then nothing. -/
lemma walk_replicate_back (h : History) (k : ℕ) :
    (h.walk (List.replicate k .back)).1 = (List.range k).map (h.undos[·]?) := by
  induction k generalizing h with
  | zero => rfl
  | succ k ih =>
    rw [List.replicate_succ, walk, ih, List.range_succ_eq_map, List.map_cons, List.map_map]
    cases hu : h.undos with
    | nil => simp [move, History.undo, hu, Function.comp_def]
    | cons u us => simp [move, History.undo, hu]

/-- Records in a fresh history, whatever they are. -/
lemma recordAll_empty (limits : Limits) (rs : List Record) :
    let gs := limits.bursts rs
    recordAll { limits } rs = (gs.flatMap onlyFirst,
      { limits
        undos := (finals gs).dropLast.reverse.take limits.maxUndo
        current := (finals gs).getLast? }) := by
  intro gs
  cases rs with
  | nil => simp [recordAll, gs, Limits.bursts, finals]
  | cons r rs =>
    obtain ⟨s,force⟩ := r
    have hfirst : record { limits } s force = (true, { limits, current := some s }) := by
      simp [record, makesStep, leaveCurrent]
    have hrun := recordAll_eq (h := { limits, current := some s }) rfl rfl (Nat.zero_le _) force rs
    simp only [recordAll, hfirst, hrun, List.append_nil]
    rw [← flatMap_onlyFirst_bursts]

/-- Coalescing and eviction. Records in a fresh history fall into bursts: a record joins the burst
of the one before it exactly if it is not forced and does not differ enough from it. The answer is
yes for the first record of each burst and no for the others; the last snapshot of the last burst is
the current one, and those of the earlier bursts are what undo comes back to, as many of the latest
ones as the limit allows. So going back again and again answers these, the latest first, and then
nothing. -/
theorem recordAll_coalesces (limits : Limits) (rs : List Record) :
    let gs := limits.bursts rs
    let answers := (recordAll { limits } rs).1
    let h := (recordAll { limits } rs).2
    let kept := (finals gs).dropLast.rtake (min limits.maxUndo (gs.length - 1))
    (gs.flatten = rs ∧ [] ∉ gs ∧ (∀ g ∈ gs, g.IsChain (limits.joins · ·)) ∧
      gs.IsChain fun g g' => ∃ hg hg', limits.joins (g.getLast hg) (g'.head hg') = false) ∧
    (finals gs).length = gs.length ∧
    answers = gs.flatMap onlyFirst ∧
    h.current = (finals gs).getLast? ∧
    h.redos = [] ∧
    h.undos.reverse = kept ∧
    ∀ k, (h.walk (List.replicate k .back)).1 = (List.range k).map (kept.reverse[·]?) := by
  intro gs answers h kept
  have hrun : (answers, h) = _ := recordAll_empty limits rs
  obtain ⟨hanswers,hh⟩ := Prod.mk.inj hrun
  have hlen : (finals gs).length = gs.length :=
    length_finals fun g hg => Limits.ne_nil_of_mem_bursts hg
  have hundos : h.undos = kept.reverse := by
    have hmin : min limits.maxUndo (gs.length - 1) =
        min limits.maxUndo (finals gs).dropLast.reverse.length := by
      rw [List.length_reverse, List.length_dropLast, hlen]
    simp only [kept, List.rtake_eq_reverse_take_reverse, List.reverse_reverse, hmin, hh]
    rw [← List.take_eq_take_min]
  obtain ⟨hflat,hnil,hchain,hbetween⟩ := List.splitBy_eq_iff.mp (rfl : limits.bursts rs = gs)
  refine ⟨⟨hflat.symm,hnil,hchain,hbetween⟩,hlen,hanswers,?_,?_,?_,?_⟩
  · rw [hh]
  · rw [hh]
  · rw [hundos, List.reverse_reverse]
  · intro k
    rw [walk_replicate_back, hundos]

section Moved
variable {p s : Snapshot}

/-- With another selection, one more or one less character is enough for a step. -/
lemma significant_iff_of_moved {limits : Limits} (hsel : s.selection ≠ p.selection) :
    limits.significant p s = true ↔
      s.text.length ≠ p.text.length ∨ s.newlines ≠ p.newlines ∨
        limits.idleMs < s.time - p.time ∨ limits.minCharDelta = 0 := by
  have hdelta : 1 ≤ p.lengthChange s ↔ s.text.length ≠ p.text.length := by
    rw [Snapshot.lengthChange]
    omega
  simp only [Limits.significant, Bool.or_eq_true, Bool.and_eq_true, decide_eq_true_eq, bne_iff_ne,
    Ne.symm hsel, ne_eq, not_false_eq_true, true_and]
  omega

/-- A record with another selection is a step of its own, and undo comes back to the snapshot before
it, exactly if the number of characters or of newlines has changed, or if so much time has passed or
so little is asked for that any record is one. Else it takes the place of the snapshot before it,
which is lost, whatever the two texts are. -/
theorem record_of_moved_selection (limits : Limits) (hmax : 1 ≤ limits.maxUndo) (ops : List Op)
    (hp : (run { limits } ops).current = some p) (hsel : s.selection ≠ p.selection) :
    let h := run { limits } ops
    let answer := h.record s false
    (answer.1 = true ↔ s.text.length ≠ p.text.length ∨ s.newlines ≠ p.newlines ∨
      limits.idleMs < s.time - p.time ∨ limits.minCharDelta = 0) ∧
    (answer.1 = true → answer.2.undo.1 = some p) ∧
    (answer.1 = false → answer.2 = { h with current := some s }) := by
  intro h answer
  have hl : h.limits = limits := limits_run { limits } ops
  have hjoins : h.limits.joins (p, false) (s, false) = !limits.significant p s := by
    simp [Limits.joins, hl]
  rw [← significant_iff_of_moved hsel]
  cases hs : limits.significant p s with
  | true =>
    have hrec := record_of_not_joins hp (hjoins.trans (by rw [hs]; rfl))
    obtain ⟨m,hm⟩ : ∃ m, h.limits.maxUndo = m + 1 := ⟨limits.maxUndo - 1,by rw [hl]; omega⟩
    rw [hm, List.take_succ_cons] at hrec
    simp [answer, h, hrec, History.undo]
  | false =>
    have hrec := record_of_joins hp (hjoins.trans (by rw [hs]; rfl))
    simp [answer, h, hrec]

/-- A character typed at a place to which the selection was moved is a step of its own. -/
theorem record_of_moved_selection_typed :
    let p : Snapshot := { text := "abc".toList }
    let s : Snapshot := { text := "abcd".toList, selection := (4, 4) }
    let h := run { limits := {} } [.record p false]
    1 ≤ h.limits.maxUndo ∧ h.current = some p ∧ s.selection ≠ p.selection ∧
      (h.record s false).1 = true ∧ (h.record s false).2.undo.1 = some p := by
  intro p s h
  have hmax : 1 ≤ ({} : Limits).maxUndo := by decide
  have hp : h.current = some p := by decide
  have hsel : s.selection ≠ p.selection := by decide
  obtain ⟨hiff,hundo,-⟩ := record_of_moved_selection {} hmax [.record p false] hp hsel
  have hstep : (h.record s false).1 = true := hiff.mpr (.inl (by decide))
  exact ⟨hmax,hp,hsel,hstep,hundo hstep⟩

/-- A character typed over another one is not, although the selection was moved and the text is
another one: there is nothing to undo, and the text before is lost. -/
theorem record_of_moved_selection_overtyped :
    let p : Snapshot := { text := "abc".toList }
    let s : Snapshot := { text := "abd".toList, selection := (3, 3) }
    let h := run { limits := {} } [.record p false]
    1 ≤ h.limits.maxUndo ∧ h.current = some p ∧ s.text ≠ p.text ∧ s.selection ≠ p.selection ∧
      (h.record s false).1 = false ∧ (h.record s false).2.undo.1 = none := by
  decide

end Moved

end EditAssist.History
