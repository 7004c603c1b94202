import EditAssist.Proofs.Diagnostic.Order
import Mathlib.Data.List.Nodup

/-! What it is to put diagnostics in order. Of the diagnostics with one key the first is kept and no
other, those that are kept stand by line and severity, and those that agree in both stand as they
were given. There is one way to do so, and what is in order stays as it is. -/
namespace EditAssist.Diagnostic

/-- Diagnostics `ds` put in order. -/
structure IsArrangement (ds out : List Diagnostic) : Prop where
  /-- Of each key there is the first diagnostic that was given, once, and nothing else. -/
  filter_key : ∀ k, out.filter (·.key = k) = (ds.find? (·.key = k)).toList
  ordered : out.Pairwise fun a b =>
    a.line < b.line ∨ a.line = b.line ∧ a.severity.rank ≤ b.severity.rank
  /-- Ties are left in the order in which they were given. -/
  stable : out.Pairwise fun a b =>
    a.line = b.line → a.severity.rank = b.severity.rank → ds.idxOf a < ds.idxOf b

section Distinct
variable {ds : List Diagnostic}

/-- Of a key that has not been seen the first diagnostic is kept. -/
lemma filter_key_distinctFrom (seen : Std.HashSet (ℕ × ℕ × String)) (ds : List Diagnostic)
    (k : ℕ × ℕ × String) :
    (distinctFrom seen ds).filter (·.key = k) =
      if k ∈ seen then [] else (ds.find? (·.key = k)).toList := by
  fun_induction distinctFrom seen ds with
  | case1 => simp
  | case2 seen d ds hs ih =>
    rw [ih]
    split_ifs with hk
    · rfl
    · have hd : d.key ≠ k := by
        rintro rfl
        exact hk (Std.HashSet.contains_iff_mem.mp hs)
      simp [hd]
  | case3 seen d ds hs ih =>
    rw [Std.HashSet.contains_iff_mem] at hs
    by_cases hd : d.key = k
    · subst hd
      simp [ih, hs]
    · simp [ih, hd]

/-- The diagnostics behind one whose key is seen come later than it. -/
lemma pairwise_idxOf_cons {seen : Std.HashSet (ℕ × ℕ × String)} {d : Diagnostic} (hd : d.key ∈ seen)
    (h : (distinctFrom seen ds).Pairwise fun a b => ds.idxOf a < ds.idxOf b) :
    (distinctFrom seen ds).Pairwise fun a b => (d :: ds).idxOf a < (d :: ds).idxOf b := by
  have hne : ∀ a ∈ distinctFrom seen ds, d ≠ a := by
    rintro a ha rfl
    exact key_not_mem_of_mem_distinctFrom ha hd
  refine h.imp_of_mem ?_
  intro a b ha hb hab
  rw [List.idxOf_cons_ne ds (hne a ha), List.idxOf_cons_ne ds (hne b hb)]
  exact Nat.succ_lt_succ hab

/-- What is kept stands in the order in which it was given first. -/
lemma pairwise_idxOf_distinctFrom (seen : Std.HashSet (ℕ × ℕ × String)) (ds : List Diagnostic) :
    (distinctFrom seen ds).Pairwise fun a b => ds.idxOf a < ds.idxOf b := by
  fun_induction distinctFrom seen ds with
  | case1 => exact .nil
  | case2 seen d ds hs ih => exact pairwise_idxOf_cons (Std.HashSet.contains_iff_mem.mp hs) ih
  | case3 seen d ds hs ih =>
    have hmem : d.key ∈ seen.insert d.key := by simp
    refine .cons ?_ (pairwise_idxOf_cons hmem ih)
    intro b hb
    have hne : d ≠ b := by
      rintro rfl
      exact key_not_mem_of_mem_distinctFrom hb hmem
    rw [List.idxOf_cons_self, List.idxOf_cons_ne ds hne]
    exact Nat.succ_pos _

end Distinct

section Sorting
variable (ds : List Diagnostic)

lemma perm_arrange : (arrange ds).Perm (distinct ds) := List.mergeSort_perm _ _

/-- Sorting leaves the diagnostics of one line and severity as they stand. -/
lemma filter_tie_arrange (line rank : ℕ) :
    (arrange ds).filter (fun d => d.line = line ∧ d.severity.rank = rank) =
      (distinct ds).filter fun d => d.line = line ∧ d.severity.rank = rank := by
  let p : Diagnostic → Bool := fun d => d.line = line ∧ d.severity.rank = rank
  have hsorted : ((distinct ds).filter p).Pairwise fun a b => before a b = true := by
    rw [List.pairwise_filter]
    refine List.pairwise_of_forall ?_
    intro a b ha hb
    simp only [p, decide_eq_true_eq] at ha hb
    rw [before_iff]
    omega
  have hsub : ((distinct ds).filter p).Sublist (arrange ds) :=
    List.sublist_mergeSort before_trans before_total hsorted List.filter_sublist
  have hsub := hsub.filter p
  rw [List.filter_filter] at hsub
  simp only [Bool.and_self] at hsub
  exact (hsub.eq_of_length ((perm_arrange ds).filter p).length_eq.symm).symm

lemma stable_arrange : (arrange ds).Pairwise fun a b =>
    a.line = b.line → a.severity.rank = b.severity.rank → ds.idxOf a < ds.idxOf b := by
  rw [List.pairwise_iff_forall_sublist]
  intro a b hab hline hrank
  -- among the ties of `a`, which stand as they were given, `b` comes behind `a`
  have hties := hab.filter fun d => d.line = a.line ∧ d.severity.rank = a.severity.rank
  rw [filter_tie_arrange] at hties
  have hpair : [a, b].Sublist (distinct ds) := by
    refine List.Sublist.trans ?_ (hties.trans List.filter_sublist)
    simp [hline, hrank]
  exact List.pairwise_iff_forall_sublist.mp (pairwise_idxOf_distinctFrom ∅ ds) hpair

lemma filter_key_arrange (k : ℕ × ℕ × String) :
    (arrange ds).filter (·.key = k) = (ds.find? (·.key = k)).toList := by
  have hperm := (perm_arrange ds).filter (·.key = k)
  rw [distinct, filter_key_distinctFrom, if_neg Std.HashSet.not_mem_empty] at hperm
  cases hfind : ds.find? (·.key = k) with
  | none =>
    rw [hfind] at hperm
    exact hperm.eq_nil
  | some d =>
    rw [hfind] at hperm
    exact List.perm_singleton.mp hperm

theorem isArrangement_arrange : IsArrangement ds (arrange ds) where
  filter_key := filter_key_arrange ds
  ordered := (List.pairwise_mergeSort before_trans before_total _).imp before_iff.mp
  stable := stable_arrange ds

lemma nodup_arrange : (arrange ds).Nodup := by
  refine (perm_arrange ds).nodup_iff.mpr ((pairwise_idxOf_distinctFrom ∅ ds).imp ?_)
  rintro a b hab rfl
  exact Nat.lt_irrefl _ hab

end Sorting

namespace IsArrangement
variable {ds out out' : List Diagnostic}

lemma perm (h : IsArrangement ds out) (h' : IsArrangement ds out') : out.Perm out' := by
  rw [List.perm_iff_count]
  intro d
  have hcount (l : List Diagnostic) : l.count d = (l.filter (·.key = d.key)).count d :=
    (List.count_filter (by simp)).symm
  rw [hcount, hcount out', h.filter_key, h'.filter_key]

/-- Diagnostics can be put in order in one way only. -/
theorem unique (h : IsArrangement ds out) (h' : IsArrangement ds out') : out = out' := by
  refine List.Perm.eq_of_pairwise ?_ (h.ordered.and h.stable) (h'.ordered.and h'.stable) (h.perm h')
  rintro a b - - ⟨hab,hsab⟩ ⟨hba,hsba⟩
  have hline : a.line = b.line := by omega
  have hrank : a.severity.rank = b.severity.rank := by omega
  have hlt := hsab hline hrank
  have hgt := hsba hline.symm hrank.symm
  omega

/-- What has been put in order is in order. -/
lemma of_nodup (h : IsArrangement ds out) (hnodup : out.Nodup) : IsArrangement out out where
  filter_key k := by rw [← List.head?_filter, h.filter_key, Option.head?_toList]
  ordered := h.ordered
  stable := by
    rw [List.pairwise_iff_getElem]
    intro i j hi hj hij _ _
    rwa [hnodup.idxOf_getElem, hnodup.idxOf_getElem]

end IsArrangement

/-- Diagnostics are put in order in the one way there is: the first of each key, by line and severity,
and otherwise as they were given. Doing it again changes nothing. -/
theorem arrange_uniquely_arranges (ds : List Diagnostic) :
    IsArrangement ds (arrange ds) ∧ (∀ out, IsArrangement ds out → out = arrange ds) ∧
      arrange (arrange ds) = arrange ds := by
  have harranged := isArrangement_arrange ds
  refine ⟨harranged,fun out h => h.unique harranged,?_⟩
  exact (isArrangement_arrange (arrange ds)).unique (harranged.of_nodup (nodup_arrange ds))

end EditAssist.Diagnostic
