import EditAssist.Analysis.Brackets
import Mathlib.Data.List.Perm.Subperm

/-! Matching brackets against the grammar of balanced sequences. A stack of open brackets is balanced
by what follows if that holds, one after another, the closers of the stack with balanced sequences
before and behind them; reading a bracket keeps this, and the matching reports nothing exactly if it
holds. What is reported counts what is too many, and no bracket is reported twice. -/
namespace EditAssist.Analysis

/-- The brackets that open. -/
def openers : List Char := ['(', '[', '\x7b']

/-- The brackets that close, in the same order. -/
def closers : List Char := [')', ']', '\x7d']

/-- The balanced sequences of brackets: the empty one, and a pair around one before another. -/
inductive Balanced : List Char → Prop
  | nil : Balanced []
  | pair {o c : Char} {s t : List Char} : (o, c) ∈ openers.zip closers → Balanced s → Balanced t →
      Balanced (o :: (s ++ c :: t))

lemma isOpener_iff (c : Char) : isOpener c = true ↔ c ∈ openers := by
  simp [isOpener, openers, or_assoc]

lemma isCloser_iff (c : Char) : isCloser c = true ↔ c ∈ closers := by
  simp [isCloser, closers, or_assoc]

lemma closerOf_mem_closers (o : Char) : closerOf o ∈ closers := by
  unfold closerOf
  split <;> decide

lemma mem_openers_iff {c : Char} : c ∈ openers ↔ c = '(' ∨ c = '[' ∨ c = '\x7b' := by
  simp [openers]

lemma mem_closers_iff {c : Char} : c ∈ closers ↔ c = ')' ∨ c = ']' ∨ c = '\x7d' := by
  simp [closers]

lemma not_isOpener_of_mem_closers {c : Char} (h : c ∈ closers) : ¬ isOpener c = true := by
  rcases mem_closers_iff.mp h with rfl | rfl | rfl <;> decide

lemma mem_zip_closerOf {o : Char} (h : isOpener o = true) :
    (o, closerOf o) ∈ openers.zip closers := by
  rcases mem_openers_iff.mp ((isOpener_iff o).mp h) with rfl | rfl | rfl <;> decide

lemma of_mem_zip {o c : Char} (h : (o, c) ∈ openers.zip closers) :
    isOpener o = true ∧ closerOf o = c := by
  simp only [openers, closers, List.zip_cons_cons, List.zip_nil_right, List.mem_cons,
    List.not_mem_nil, or_false, Prod.mk.injEq] at h
  rcases h with ⟨rfl,rfl⟩ | ⟨rfl,rfl⟩ | ⟨rfl,rfl⟩ <;> decide

lemma balanced_cons_iff {c : Char} {r : List Char} :
    Balanced (c :: r) ↔
      isOpener c = true ∧ ∃ s t, r = s ++ closerOf c :: t ∧ Balanced s ∧ Balanced t := by
  constructor
  · intro h
    cases h with
    | pair hp hs ht =>
      obtain ⟨ho,rfl⟩ := of_mem_zip hp
      exact ⟨ho,_,_,rfl,hs,ht⟩
  · rintro ⟨ho,s,t,rfl,hs,ht⟩
    exact .pair (mem_zip_closerOf ho) hs ht

/-- What balances a stack of open brackets, the last opened first. -/
def Closes : List Char → List Char → Prop
  | [], t => Balanced t
  | o :: os, t => ∃ w r, t = w ++ closerOf o :: r ∧ Balanced w ∧ Closes os r

/-- At the end, only the empty stack is balanced. -/
lemma closes_end_iff (os : List Char) : Closes os [] ↔ os = [] := by
  cases os with
  | nil => simpa [Closes] using Balanced.nil
  | cons o os => simp [Closes]

/-- An opener goes on the stack. -/
lemma closes_opener_iff {c : Char} (hc : isOpener c = true) (os r : List Char) :
    Closes os (c :: r) ↔ Closes (c :: os) r := by
  cases os with
  | nil => simp [Closes, balanced_cons_iff, hc]
  | cons o os =>
    constructor
    · rintro ⟨w,r',he,hw,hr'⟩
      cases w with
      | nil =>
        obtain ⟨rfl,-⟩ := List.cons.inj he
        exact absurd hc (not_isOpener_of_mem_closers (closerOf_mem_closers o))
      | cons d w =>
        obtain ⟨rfl,rfl⟩ := List.cons.inj he
        obtain ⟨-,s,t,rfl,hs,ht⟩ := balanced_cons_iff.mp hw
        exact ⟨s,t ++ closerOf o :: r',by simp,hs,t,r',rfl,ht,hr'⟩
    · rintro ⟨s,-,rfl,hs,t,r',rfl,ht,hr'⟩
      exact ⟨c :: (s ++ closerOf c :: t),r',by simp,balanced_cons_iff.mpr ⟨hc,s,t,rfl,hs,ht⟩,hr'⟩

/-- A closer starts nothing balanced. -/
lemma not_balanced_closer {c : Char} (hc : isCloser c = true) (r : List Char) :
    ¬ Balanced (c :: r) := by
  intro h
  exact not_isOpener_of_mem_closers ((isCloser_iff c).mp hc) (balanced_cons_iff.mp h).1

/-- A closer takes the last opened bracket from the stack, and must be of its kind. -/
lemma closes_closer_iff {c : Char} (hc : isCloser c = true) (o : Char) (os r : List Char) :
    Closes (o :: os) (c :: r) ↔ closerOf o = c ∧ Closes os r := by
  constructor
  · rintro ⟨w,r',he,hw,hr'⟩
    cases w with
    | nil =>
      obtain ⟨rfl,rfl⟩ := List.cons.inj he
      exact ⟨rfl,hr'⟩
    | cons d w =>
      obtain ⟨rfl,rfl⟩ := List.cons.inj he
      exact absurd hw (not_balanced_closer hc w)
  · rintro ⟨rfl,h⟩
    exact ⟨[],r,rfl,.nil,h⟩

/-- Nothing is reported exactly if the brackets balance the stack. -/
theorem matchBrackets_eq_nil_iff_closes (opened bs : List (ℕ × Char))
    (hb : ∀ b ∈ bs, isOpener b.2 = true ∨ isCloser b.2 = true) :
    matchBrackets opened bs = [] ↔ Closes (opened.map Prod.snd) (bs.map Prod.snd) := by
  fun_induction matchBrackets opened bs with
  | case1 opened => simp [closes_end_iff]
  | case2 opened o c rest ho ih =>
    rw [ih (List.forall_mem_cons.mp hb).2, List.map_cons, List.map_cons, closes_opener_iff ho]
  | case3 o c rest ho hc ih => simp [Closes, not_balanced_closer hc]
  | case4 o rest o' opener opened ho hc ih =>
    rw [ih (List.forall_mem_cons.mp hb).2, List.map_cons, List.map_cons, closes_closer_iff hc]
    simp
  | case5 o c rest ho hc o' opener opened hne ih => simp [closes_closer_iff hc, hne]
  | case6 opened o c rest ho hc ih =>
    rcases (List.forall_mem_cons.mp hb).1 with h | h
    · exact absurd h ho
    · exact absurd h hc

theorem matchBrackets_eq_nil_iff_balanced {bs : List (ℕ × Char)}
    (hb : ∀ b ∈ bs, isOpener b.2 = true ∨ isCloser b.2 = true) :
    matchBrackets [] bs = [] ↔ Balanced (bs.map Prod.snd) :=
  matchBrackets_eq_nil_iff_closes [] bs hb

/-- What is unclosed is what was opened and not closed, unless there was nothing open to close. -/
theorem count_matchBrackets (opened bs : List (ℕ × Char)) :
    opened.length + bs.countP (isOpener ·.2) +
        (matchBrackets opened bs).countP (·.2.kind = "unmatched_bracket") =
      bs.countP (isCloser ·.2) +
        (matchBrackets opened bs).countP (·.2.kind = "unclosed_bracket") := by
  fun_induction matchBrackets opened bs with
  | case1 opened => simp [Function.comp_def, BracketFault.kind]
  | case2 opened o c rest ho ih =>
    have hc : isCloser c = false := by
      rw [← Bool.not_eq_true]
      exact fun h => not_isOpener_of_mem_closers ((isCloser_iff c).mp h) ho
    simp only [List.length_cons, List.countP_cons, ho, hc, reduceIte, Bool.false_eq_true] at ih ⊢
    omega
  | case3 o c rest ho hc ih =>
    simp only [List.length_nil, List.countP_cons, ho, hc, BracketFault.kind, String.reduceEq,
      decide_true, decide_false, reduceIte, Bool.false_eq_true] at ih ⊢
    omega
  | case4 o rest o' opener opened ho hc ih =>
    simp only [List.length_cons, List.countP_cons, ho, hc, reduceIte, Bool.false_eq_true]
    omega
  | case5 o c rest ho hc o' opener opened hne ih =>
    simp only [List.length_cons, List.countP_cons, ho, hc, BracketFault.kind, String.reduceEq,
      decide_false, reduceIte, Bool.false_eq_true] at ih ⊢
    omega
  | case6 opened o c rest ho hc ih =>
    simp only [List.countP_cons, ho, hc, reduceIte, Bool.false_eq_true]
    exact ih

lemma subperm_offsets_middle (o : ℕ) (c : Char) (opened rest : List (ℕ × Char)) :
    List.Subperm (o :: (opened ++ rest).map Prod.fst) ((opened ++ (o, c) :: rest).map Prod.fst) :=
  (List.Perm.map Prod.fst (List.perm_middle (a := (o, c))).symm).subperm

/-- No bracket is reported twice. -/
theorem subperm_matchBrackets (opened bs : List (ℕ × Char)) :
    List.Subperm ((matchBrackets opened bs).map Prod.fst) ((opened ++ bs).map Prod.fst) := by
  fun_induction matchBrackets opened bs with
  | case1 opened =>
    rw [List.append_nil, List.map_map]
    exact ((List.reverse_perm opened).map Prod.fst).subperm
  | case2 opened o c rest ho ih => exact ih.trans (subperm_offsets_middle o c opened rest)
  | case3 o c rest ho hc ih => exact (List.subperm_cons o).mpr ih
  | case4 o rest o' opener opened ho hc ih =>
    apply List.Subperm.cons_right
    exact (ih.cons_right o).trans (subperm_offsets_middle o _ opened rest)
  | case5 o c rest ho hc o' opener opened hne ih =>
    apply List.Subperm.cons_right
    exact ((List.subperm_cons o).mpr ih).trans (subperm_offsets_middle o c opened rest)
  | case6 opened o c rest ho hc ih =>
    exact (ih.cons_right o).trans (subperm_offsets_middle o c opened rest)

end EditAssist.Analysis
