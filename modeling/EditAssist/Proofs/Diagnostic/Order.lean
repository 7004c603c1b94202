import EditAssist.Diagnostic.Order
import Mathlib.Data.List.Basic

/-! Laws of the order of diagnostics. A change of diagnostics that keeps their keys apart can be made
before or after duplicates are dropped, and one that keeps their order before or after they are
sorted; a first diagnostic that may stand before all others stays the first. -/
namespace EditAssist.Diagnostic

lemma before_iff {a b : Diagnostic} :
    before a b = true ↔ a.line < b.line ∨ a.line = b.line ∧ a.severity.rank ≤ b.severity.rank := by
  simp [before]

lemma before_trans (a b c : Diagnostic) (hab : before a b = true) (hbc : before b c = true) :
    before a c = true := by
  rw [before_iff] at hab hbc ⊢
  omega

lemma before_total (a b : Diagnostic) : (before a b || before b a) = true := by
  rw [Bool.or_eq_true, before_iff, before_iff]
  omega

/-- A diagnostic is kept only if its key has not been seen. -/
lemma key_not_mem_of_mem_distinctFrom {seen : Std.HashSet (ℕ × ℕ × String)} {ds : List Diagnostic}
    {d : Diagnostic} (h : d ∈ distinctFrom seen ds) : d.key ∉ seen := by
  fun_induction distinctFrom seen ds with
  | case1 => simp at h
  | case2 seen e ds hs ih => exact ih h
  | case3 seen e ds hs ih =>
    rcases List.mem_cons.mp h with rfl | h
    · simpa using hs
    · have hd := ih h
      rw [Std.HashSet.mem_insert] at hd
      exact fun hmem => hd (.inr hmem)

/-- A change that keeps keys apart commutes with the dropping of duplicates. -/
theorem distinctFrom_map {f : Diagnostic → Diagnostic}
    (hf : ∀ d e, (f d).key = (f e).key ↔ d.key = e.key) {seen seen' : Std.HashSet (ℕ × ℕ × String)}
    (hs : ∀ d, (f d).key ∈ seen' ↔ d.key ∈ seen) (ds : List Diagnostic) :
    distinctFrom seen' (ds.map f) = (distinctFrom seen ds).map f := by
  induction ds generalizing seen seen' with
  | nil => rfl
  | cons d ds ih =>
    simp only [List.map_cons, distinctFrom, Std.HashSet.contains_iff_mem]
    by_cases hd : d.key ∈ seen
    · rw [if_pos hd, if_pos ((hs d).mpr hd)]
      exact ih hs
    · rw [if_neg hd, if_neg (mt (hs d).mp hd), List.map_cons]
      congr 1
      apply ih
      intro e
      simp only [Std.HashSet.mem_insert, beq_iff_eq, hf, hs]

/-- A change that keeps the order of some diagnostics commutes with their sorting. -/
lemma mergeSort_map_before {f : Diagnostic → Diagnostic} {ds : List Diagnostic}
    (hf : ∀ d ∈ ds, ∀ e ∈ ds, before d e = before (f d) (f e)) :
    (ds.map f).mergeSort before = (ds.mergeSort before).map f :=
  (List.map_mergeSort hf).symm

lemma mergeSort_cons_of_before {d : Diagnostic} {ds : List Diagnostic}
    (h : ∀ e ∈ ds, before d e = true) : (d :: ds).mergeSort before = d :: ds.mergeSort before := by
  obtain ⟨l₁,l₂,hcons,hsort,hl₁⟩ := List.mergeSort_cons before_trans before_total d ds
  obtain rfl : l₁ = [] := by
    apply List.eq_nil_iff_forall_not_mem.mpr
    intro e he
    have hmem : e ∈ ds.mergeSort before := by
      rw [hsort]
      exact List.mem_append_left l₂ he
    simpa [h e (List.mem_mergeSort.mp hmem)] using hl₁ e he
  rw [hcons, hsort, List.nil_append, List.nil_append]

@[simp] lemma arrange_singleton (d : Diagnostic) : arrange [d] = [d] := by
  simp [arrange, distinct, distinctFrom]

/-- Two diagnostics that stand in the wrong order change places. -/
lemma arrange_pair {a b : Diagnostic} (hkey : a.key ≠ b.key) (h : before a b = false) :
    arrange [a, b] = [b, a] := by
  have hdistinct : distinct [a, b] = [a, b] := by simp [distinct, distinctFrom, hkey]
  rw [arrange, hdistinct]
  simp [List.mergeSort, h]

end EditAssist.Diagnostic
