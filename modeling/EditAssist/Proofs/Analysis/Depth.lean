import EditAssist.Analysis.Context
import EditAssist.Proofs.Analysis.Balance
import Mathlib.Algebra.Order.Group.Int
import Mathlib.Data.List.Infix
import Mathlib.Order.Bounds.Defs

/-! How deep the brackets of a text nest. The scan keeps one depth, which closing brackets never take
below zero, and the deepest so far; the answer is the greatest surplus of opening over closing brackets
in any part of the text. A bound on the answer is a bound on the surplus of every part, and on that of
every beginning of the text on top of the depth before it: this is what the scan carries from one
character to the next. -/
namespace EditAssist.Analysis

/-- By how many the opening brackets of a text exceed the closing ones. -/
def surplus (t : List Char) : ℤ := t.countP isOpener - t.countP isCloser

/-- What a character adds to the surplus. -/
def weight (c : Char) : ℤ := if isOpener c then 1 else if isCloser c then -1 else 0

@[simp] lemma surplus_nil : surplus [] = 0 := rfl

lemma isCloser_eq_false {c : Char} (h : isOpener c = true) : isCloser c = false := by
  rw [Bool.eq_false_iff]
  intro hc
  exact not_isOpener_of_mem_closers ((isCloser_iff c).mp hc) h

@[simp] lemma surplus_cons (c : Char) (t : List Char) : surplus (c :: t) = weight c + surplus t := by
  unfold surplus weight
  by_cases ho : isOpener c = true
  · rw [List.countP_cons_of_pos ho, List.countP_cons_of_neg (by simp [isCloser_eq_false ho]), if_pos ho]
    omega
  · rw [List.countP_cons_of_neg ho, if_neg ho]
    by_cases hc : isCloser c = true
    · rw [List.countP_cons_of_pos hc, if_pos hc]
      omega
    · rw [List.countP_cons_of_neg hc, if_neg hc]
      omega

@[simp] lemma surplus_append (s t : List Char) : surplus (s ++ t) = surplus s + surplus t := by
  induction s with
  | nil => simp
  | cons c s ih =>
    rw [List.cons_append, surplus_cons, surplus_cons, ih]
    omega

lemma surplus_le_countP (t : List Char) : surplus t ≤ t.countP isOpener := by
  unfold surplus
  omega

lemma depthFrom_cons (depth deepest : ℕ) (c : Char) (t : List Char) :
    depthFrom depth deepest (c :: t) =
      if isOpener c then depthFrom (depth + 1) (max deepest (depth + 1)) t
      else if isCloser c then depthFrom (depth - 1) deepest t
      else depthFrom depth deepest t := rfl

/-- Neither a part of a text nor a beginning of it, on top of a depth, has more surplus than `b`. -/
structure Within (depth : ℤ) (t : List Char) (b : ℤ) : Prop where
  heads : ∀ p, p <+: t → depth + surplus p ≤ b
  parts : ∀ w, w <:+: t → surplus w ≤ b

lemma Within.depth_le {depth b : ℤ} {t : List Char} (h : Within depth t b) : depth ≤ b := by
  simpa using h.heads [] List.nil_prefix

lemma within_nil_iff {depth b : ℤ} (hdepth : 0 ≤ depth) : Within depth [] b ↔ depth ≤ b := by
  refine ⟨Within.depth_le,fun hb => ⟨?_,?_⟩⟩
  · intro p hp
    simpa [List.prefix_nil.mp hp] using hb
  · intro w hw
    simpa [List.infix_nil.mp hw] using hdepth.trans hb

/-- What is read first goes on top of the depth; a part that starts with it is also a beginning. -/
lemma within_cons_iff {depth b : ℤ} (hdepth : 0 ≤ depth) (c : Char) (t : List Char) :
    Within depth (c :: t) b ↔ depth ≤ b ∧ Within (depth + weight c) t b := by
  constructor
  · intro h
    refine ⟨h.depth_le,⟨?_,?_⟩⟩
    · intro p hp
      have hb := h.heads (c :: p) ((List.prefix_cons_inj c).mpr hp)
      rw [surplus_cons] at hb
      omega
    · intro w hw
      exact h.parts w (List.infix_cons hw)
  · rintro ⟨hb,h⟩
    have hheads : ∀ p, p <+: c :: t → depth + surplus p ≤ b := by
      intro p hp
      obtain rfl | ⟨p,rfl,hp'⟩ := List.prefix_cons_iff.mp hp
      · simpa using hb
      · have hp' := h.heads p hp'
        rw [surplus_cons]
        omega
    refine ⟨hheads,?_⟩
    intro w hw
    obtain hw | hw := List.infix_cons_iff.mp hw
    · have hw := hheads w hw
      omega
    · exact h.parts w hw

/-- A depth that is stopped at zero bounds the same: a beginning of the text is also a part of it. -/
lemma within_toNat_iff {depth b : ℤ} {t : List Char} :
    Within depth.toNat t b ↔ Within depth t b ∧ 0 ≤ b := by
  constructor
  · intro h
    have hb := h.depth_le
    refine ⟨⟨?_,h.parts⟩,by omega⟩
    intro p hp
    have hp := h.heads p hp
    omega
  · rintro ⟨h,-⟩
    refine ⟨?_,h.parts⟩
    intro p hp
    have hhead := h.heads p hp
    have hpart := h.parts p hp.isInfix
    omega

/-- What the scan answers is bounded by `b` exactly if the deepest so far and all of the text are. -/
theorem depthFrom_le_iff {depth deepest : ℕ} (h : depth ≤ deepest) (t : List Char) (b : ℤ) :
    (depthFrom depth deepest t : ℤ) ≤ b ↔ deepest ≤ b ∧ Within depth t b := by
  induction t generalizing depth deepest with
  | nil =>
    rw [depthFrom, within_nil_iff (by omega)]
    omega
  | cons c t ih =>
    rw [depthFrom_cons, within_cons_iff (by omega)]
    by_cases ho : isOpener c = true
    · rw [if_pos ho, ih (by omega), weight, if_pos ho]
      push_cast
      constructor
      · rintro ⟨hb,hw⟩
        exact ⟨by omega,by omega,hw⟩
      · rintro ⟨hb,-,hw⟩
        have hd := hw.depth_le
        exact ⟨by omega,hw⟩
    · rw [if_neg ho]
      by_cases hc : isCloser c = true
      · have hdepth : ((depth - 1 : ℕ) : ℤ) = ((depth + -1 : ℤ).toNat : ℤ) := by omega
        rw [if_pos hc, ih (by omega), weight, if_neg ho, if_pos hc, hdepth, within_toNat_iff]
        constructor
        · rintro ⟨hb,hw,-⟩
          exact ⟨hb,by omega,hw⟩
        · rintro ⟨hb,-,hw⟩
          exact ⟨hb,hw,by omega⟩
      · rw [if_neg hc, ih h, weight, if_neg ho, if_neg hc, add_zero]
        constructor
        · rintro ⟨hb,hw⟩
          exact ⟨hb,by omega,hw⟩
        · rintro ⟨hb,-,hw⟩
          exact ⟨hb,hw⟩

section MaxDepth
variable {lang : Language} {text : List Char}

/-- The depth of a text is the least bound on the surplus of its parts. -/
theorem maxDepth_le_iff {b : ℤ} :
    ((Context.ofText lang text).maxDepth : ℤ) ≤ b ↔ ∀ w, w <:+: text → surplus w ≤ b := by
  have hscan : ((Context.ofText lang text).maxDepth : ℤ) ≤ b ↔
      (0 : ℕ) ≤ b ∧ Within (0 : ℕ) text b :=
    depthFrom_le_iff (Nat.le_refl 0) text b
  rw [hscan]
  constructor
  · exact fun h => h.2.parts
  · intro h
    have hb : 0 ≤ b := h [] (List.nil_infix)
    refine ⟨hb,⟨?_,h⟩⟩
    intro p hp
    have hp := h p hp.isInfix
    omega

lemma surplus_le_maxDepth {w : List Char} (hw : w <:+: text) :
    surplus w ≤ (Context.ofText lang text).maxDepth :=
  maxDepth_le_iff.mp (Int.le_refl _) w hw

/-- Some part has the depth of the text for its surplus: the surpluses are whole numbers. -/
lemma exists_surplus_eq_maxDepth :
    ∃ w, w <:+: text ∧ surplus w = (Context.ofText lang text).maxDepth := by
  by_contra hnone
  have hless : ((Context.ofText lang text).maxDepth : ℤ) ≤
      (Context.ofText lang text).maxDepth - 1 := by
    apply maxDepth_le_iff.mpr
    intro w hw
    have hle : surplus w ≤ (Context.ofText lang text).maxDepth := surplus_le_maxDepth hw
    have hne : surplus w ≠ (Context.ofText lang text).maxDepth := fun he => hnone ⟨w,hw,he⟩
    omega
  omega

/-- A part of a text does not nest deeper than the text. -/
lemma maxDepth_mono {w : List Char} (hw : w <:+: text) :
    (Context.ofText lang w).maxDepth ≤ (Context.ofText lang text).maxDepth := by
  apply Int.ofNat_le.mp
  apply maxDepth_le_iff.mpr
  intro v hv
  exact surplus_le_maxDepth (hv.trans hw)

/-- Behind a text no end of which has a surplus, nesting starts anew. -/
lemma maxDepth_append {a : List Char} (ha : ∀ s, s <:+ a → surplus s ≤ 0) :
    (Context.ofText lang (a ++ text)).maxDepth =
      max (Context.ofText lang a).maxDepth (Context.ofText lang text).maxDepth := by
  apply Nat.le_antisymm
  · apply Int.ofNat_le.mp
    apply maxDepth_le_iff.mpr
    intro w hw
    obtain hw | hw | ⟨s,p,rfl,hs,hp⟩ := List.infix_append_iff.mp hw
    · have hpart : surplus w ≤ (Context.ofText lang a).maxDepth := surplus_le_maxDepth hw
      omega
    · have hpart : surplus w ≤ (Context.ofText lang text).maxDepth := surplus_le_maxDepth hw
      omega
    · have hend := ha s hs
      have hhead : surplus p ≤ (Context.ofText lang text).maxDepth := surplus_le_maxDepth hp.isInfix
      rw [surplus_append]
      omega
  · apply Nat.max_le.mpr
    exact ⟨maxDepth_mono List.infix_append_left,maxDepth_mono List.infix_append_right⟩

end MaxDepth

/-- The depth of a text is the greatest surplus of opening over closing brackets in a part of it. So it
is at most the number of opening brackets, a part of the text is never deeper than the text, and what
stands before a text and leaves nothing open, as closing brackets do that are too many, takes nothing
from its depth and adds nothing to it. -/
theorem maxDepth_isGreatest_surplus (lang : Language) (text : List Char) :
    let depth t := (Context.ofText lang t).maxDepth
    IsGreatest {d : ℤ | ∃ w, w <:+: text ∧ surplus w = d} (depth text) ∧
      depth text ≤ text.countP isOpener ∧
      (∀ w, w <:+: text → depth w ≤ depth text) ∧
      ∀ a, (∀ s, s <:+ a → surplus s ≤ 0) → depth (a ++ text) = max (depth a) (depth text) := by
  intro depth
  refine ⟨⟨exists_surplus_eq_maxDepth,?_⟩,?_,fun w => maxDepth_mono,fun a => maxDepth_append⟩
  · rintro d ⟨w,hw,rfl⟩
    exact surplus_le_maxDepth hw
  · apply Int.ofNat_le.mp
    apply maxDepth_le_iff.mpr
    intro w hw
    have hcount : w.countP isOpener ≤ text.countP isOpener := hw.sublist.countP_le
    have hle := surplus_le_countP w
    omega

end EditAssist.Analysis
