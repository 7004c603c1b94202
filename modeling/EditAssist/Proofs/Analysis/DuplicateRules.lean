import EditAssist.Proofs.Analysis.Correspondence
import Mathlib.Data.Set.Insert

/-! Rules that repeat another. What a rule finds in a line is told apart by its kind and the columns
that its pattern gives, so a rule with the kind and the pattern of an earlier one finds in each line
what that one has found there before it. Such a rule changes nothing in an analysis, whatever its
message and severity, and wherever it stands behind the other. -/
namespace EditAssist.Diagnostic

/-- `ds'` is `ds` with further diagnostics in it that repeat a key: one of `keys`, or the key of a
diagnostic of `ds` before them. -/
inductive Repeats : Set (ℕ × ℕ × String) → List Diagnostic → List Diagnostic → Prop
  | nil {keys} : Repeats keys [] []
  | keep {keys d ds ds'} : Repeats (insert d.key keys) ds ds' → Repeats keys (d :: ds) (d :: ds')
  | again {keys d ds ds'} : d.key ∈ keys → Repeats keys ds ds' → Repeats keys ds (d :: ds')

namespace Repeats
variable {keys keys' : Set (ℕ × ℕ × String)} {ds ds' es es' : List Diagnostic}

lemma refl (keys : Set (ℕ × ℕ × String)) (ds : List Diagnostic) : Repeats keys ds ds := by
  induction ds generalizing keys with
  | nil => exact .nil
  | cons d ds ih => exact .keep (ih _)

lemma mono (h : Repeats keys ds ds') (hk : keys ⊆ keys') : Repeats keys' ds ds' := by
  induction h generalizing keys' with
  | nil => exact .nil
  | keep _ ih => exact .keep (ih (Set.insert_subset_insert hk))
  | again hd _ ih => exact .again (hk hd) (ih hk)

/-- What follows may repeat the keys of what stands before. -/
lemma append_union (h : Repeats keys ds ds') (he : Repeats (keys ∪ {k | k ∈ ds.map key}) es es') :
    Repeats keys (ds ++ es) (ds' ++ es') := by
  induction h with
  | nil => exact he.mono (by simp)
  | @keep keys d ds ds' _ ih =>
    refine .keep (ih (he.mono ?_))
    rintro k (hk | hk)
    · exact .inl (.inr hk)
    · rcases List.mem_cons.mp hk with rfl | hk
      · exact .inl (.inl rfl)
      · exact .inr hk
  | again hd _ ih => exact .again hd (ih he)

lemma append (h : Repeats keys ds ds') (he : Repeats keys es es') :
    Repeats keys (ds ++ es) (ds' ++ es') :=
  h.append_union (he.mono Set.subset_union_left)

lemma of_forall (h : ∀ d ∈ ds', d.key ∈ keys) : Repeats keys [] ds' := by
  induction ds' with
  | nil => exact .nil
  | cons d ds' ih =>
    obtain ⟨hd,hds⟩ := List.forall_mem_cons.mp h
    exact .again hd (ih hds)

/-- Of repeated keys nothing is kept. -/
theorem distinctFrom_eq (h : Repeats keys ds ds') {seen : Std.HashSet (ℕ × ℕ × String)}
    (hseen : ∀ k ∈ keys, k ∈ seen) : distinctFrom seen ds' = distinctFrom seen ds := by
  induction h generalizing seen with
  | nil => rfl
  | @keep keys d ds ds' _ ih =>
    simp only [distinctFrom, Std.HashSet.contains_iff_mem]
    split_ifs with hd
    · exact ih (Set.forall_insert_of_forall hseen hd)
    · rw [ih]
      rintro k (rfl | hk) <;> simp [*]
  | again hd _ ih =>
    rw [distinctFrom, if_pos (Std.HashSet.contains_iff_mem.mpr (hseen _ hd)), ih hseen]

theorem arrange_eq (h : Repeats ∅ ds ds') : arrange ds' = arrange ds := by
  rw [arrange, arrange, distinct, distinct, h.distinctFrom_eq (by simp)]

end Repeats
end EditAssist.Diagnostic

namespace EditAssist.Analysis
open Text Diagnostic

section Rules
variable {r r' : Rule} {s s' : Setting}

lemma key_ruleDiagnostics (hkind : r'.kind = r.kind) (hpattern : r'.pattern = r.pattern) (number : ℕ)
    (line : List Char) :
    (ruleDiagnostics number line r').map key = (ruleDiagnostics number line r).map key := by
  simp only [ruleDiagnostics, List.map_map, Rule.columns, hpattern]
  exact List.map_congr_left fun column _ => by simp [key, hkind]

/-- In a line, the rule finds again what the earlier one has found. -/
lemma repeats_ruleDiagnostics (rs₁ rs₂ rs₃ : List Rule) (hkind : r'.kind = r.kind)
    (hpattern : r'.pattern = r.pattern) (number : ℕ) (line : List Char) :
    Repeats ∅ ((rs₁ ++ r :: rs₂ ++ rs₃).flatMap (ruleDiagnostics number line))
      ((rs₁ ++ r :: rs₂ ++ r' :: rs₃).flatMap (ruleDiagnostics number line)) := by
  have hsplit (rs : List Rule) : (rs₁ ++ r :: rs₂ ++ rs).flatMap (ruleDiagnostics number line) =
      (rs₁ ++ r :: rs₂).flatMap (ruleDiagnostics number line) ++
        rs.flatMap (ruleDiagnostics number line) := List.flatMap_append
  rw [hsplit, hsplit, List.flatMap_cons]
  refine (Repeats.refl ∅ _).append_union ?_
  refine (Repeats.of_forall ?_).append (Repeats.refl _ _)
  intro d hd
  have hkey : d.key ∈ (ruleDiagnostics number line r).map key := by
    rw [← key_ruleDiagnostics hkind hpattern]
    exact List.mem_map_of_mem hd
  refine .inr (?_ : d.key ∈ List.map key _)
  rw [List.flatMap_append, List.flatMap_cons, List.map_append, List.map_append]
  exact List.mem_append_right _ (List.mem_append_left _ hkey)

/-- The analysis of a line only repeats itself if the rules do. -/
lemma repeats_lineDiagnostics
    (hs : ∀ number line, Repeats ∅ (s.rules.flatMap (ruleDiagnostics number line))
      (s'.rules.flatMap (ruleDiagnostics number line)))
    (hlang : s'.lang = s.lang) (hcontext : s'.context = s.context)
    (hinclude : s'.wantsInclude = s.wantsInclude) (number : ℕ) (line : List Char) :
    Repeats ∅ (lineDiagnostics s number line) (lineDiagnostics s' number line) := by
  simp only [lineDiagnostics, hlang, hcontext, hinclude]
  exact ((Repeats.refl ∅ _).append (hs number line)).append (Repeats.refl ∅ _)

/-- So does the pass over all lines. -/
theorem repeats_passFrom
    (hs : ∀ number line, Repeats ∅ (lineDiagnostics s number line) (lineDiagnostics s' number line))
    (hlang : s'.lang = s.lang) (number : ℕ) (ss : List Span) (ls : List Line) :
    Repeats ∅ (passFrom s number ss ls) (passFrom s' number ss ls) := by
  induction ls generalizing number ss with
  | nil => exact .nil
  | cons l ls ih =>
    simp only [passFrom, hlang]
    split_ifs
    · exact ih _ _
    · exact (hs number l.text).append (ih _ _)

end Rules

/-- A rule with the kind and the pattern of an earlier rule changes nothing in an analysis. -/
theorem analyze_duplicateRule (lang : Language) (keywords : List String) (rs₁ rs₂ rs₃ : List Rule)
    (r r' : Rule) (text : List Char) (hkind : r'.kind = r.kind) (hpattern : r'.pattern = r.pattern) :
    analyze lang keywords (rs₁ ++ r :: rs₂ ++ r' :: rs₃) text =
      analyze lang keywords (rs₁ ++ r :: rs₂ ++ rs₃) text := by
  rw [analyze_eq_arrange, analyze_eq_arrange]
  apply Repeats.arrange_eq
  unfold found
  refine Repeats.append (Repeats.append (Repeats.append ?_ (.refl ∅ _)) (.refl ∅ _)) (.refl ∅ _)
  apply repeats_passFrom
  · intro number line
    apply repeats_lineDiagnostics (repeats_ruleDiagnostics rs₁ rs₂ rs₃ hkind hpattern) <;> rfl
  · rfl

/-- The second rule finds the `x`, as the first did, and is not heard. -/
theorem analyze_duplicateRule_warning :
    let p : Pattern := ⟨"(?-i)x", .ofExpr (.text ['x'])⟩
    let r : Rule := ⟨"letter", p, "A letter", .error⟩
    let r' : Rule := ⟨"letter", p, "Another letter", .warning⟩
    found .python [] [r, r'] ['x'] =
      [⟨1, 0, .error, "letter", "A letter"⟩, ⟨1, 0, .warning, "letter", "Another letter"⟩] ∧
    analyze .python [] [r, r'] ['x'] = analyze .python [] [r] ['x'] := by
  intro p r r'
  refine ⟨by decide +kernel,?_⟩
  exact analyze_duplicateRule .python [] [] [] [] r r' ['x'] rfl rfl

end EditAssist.Analysis
