import EditAssist.Analysis
import EditAssist.Proofs.Text.Boundary
import Mathlib.Data.List.Forall2

/-! Two texts analysed side by side. The pass over the lines asks of a line no more than its text and
whether it starts inside a comment, and brackets are matched without a look at their offsets. So
texts whose lines, brackets and open strings correspond have diagnostics that correspond. -/
namespace EditAssist

/-- A diagnostic that is moved to another place. -/
def Diagnostic.move (g : ℕ × ℕ → ℕ × ℕ) (d : Diagnostic) : Diagnostic :=
  { d with line := (g (d.line, d.column)).1, column := (g (d.line, d.column)).2 }

end EditAssist

namespace EditAssist.Text

/-- Lines that are laid out start one behind the other. -/
lemma pairwise_layout (start : ℕ) (ps : List (List Char)) :
    (∀ l ∈ layout start ps, start ≤ l.start) ∧
      (layout start ps).Pairwise (fun l m => l.start ≤ m.start) := by
  induction ps generalizing start with
  | nil => exact ⟨by simp [layout],List.Pairwise.nil⟩
  | cons p ps ih =>
    obtain ⟨hle,hpair⟩ := ih (start + bytes p + 1)
    have hrest : ∀ l ∈ layout (start + bytes p + 1) ps, start ≤ l.start := by
      intro l hl
      have hl := hle l hl
      omega
    exact ⟨List.forall_mem_cons.mpr ⟨Nat.le_refl _,hrest⟩,List.Pairwise.cons hrest hpair⟩

lemma pairwise_lines (t : List Char) : (lines t).Pairwise (fun l m => l.start ≤ m.start) :=
  (pairwise_layout 0 _).2

end EditAssist.Text

namespace EditAssist.Analysis
open Text

section Pass
variable {s : Setting} {ss ss' : List Span}

/-- Whether a byte offset lies inside a comment, given all the spans of a text. -/
def insideComment (ss : List Span) (offset : ℕ) : Bool :=
  startsInComment offset (ss.dropWhile (·.stop ≤ offset))

lemma insideComment_cons_of_le {t : Span} {o : ℕ} (h : t.stop ≤ o) :
    insideComment (t :: ss) o = insideComment ss o := by
  simp [insideComment, h]

lemma insideComment_cons_of_lt {t : Span} {o : ℕ} (h : o < t.stop) :
    insideComment (t :: ss) o = decide (t.start < o ∧ t.category = .comment) := by
  simp [insideComment, startsInComment, Nat.not_le.mpr h]

/-- Spans that end before an offset are dropped at every later one. -/
lemma dropWhile_stop_le {o o' : ℕ} (h : o ≤ o') (ss : List Span) :
    (ss.dropWhile (·.stop ≤ o)).dropWhile (·.stop ≤ o') = ss.dropWhile (·.stop ≤ o') := by
  induction ss with
  | nil => rfl
  | cons t ss ih =>
    rw [List.dropWhile_cons]
    split_ifs with ht
    · have ht' : decide (t.stop ≤ o') = true := by
        simp only [decide_eq_true_eq] at ht ⊢
        omega
      rw [ih, List.dropWhile_cons, if_pos ht']
    · rfl

/-- The pass may look at all spans again at each line. -/
lemma passFrom_dropWhile {o : ℕ} (number : ℕ) {ls : List Line} (h : ∀ l ∈ ls, o ≤ l.start) :
    passFrom s number (ss.dropWhile (·.stop ≤ o)) ls = passFrom s number ss ls := by
  cases ls with
  | nil => rfl
  | cons l ls =>
    simp only [passFrom]
    rw [dropWhile_stop_le (h l List.mem_cons_self)]

theorem passFrom_cons (number : ℕ) {l : Line} {ls : List Line} (h : ∀ m ∈ ls, l.start ≤ m.start) :
    passFrom s number ss (l :: ls) =
      (if insideComment ss l.start || isIdle s.lang l.text then []
        else lineDiagnostics s number l.text) ++ passFrom s (number + 1) ss ls := by
  rw [← passFrom_dropWhile (number + 1) h]
  simp only [passFrom, insideComment]
  split_ifs with h <;> simp only [h, if_true, if_false, List.nil_append, Bool.false_eq_true]

/-- Lines with the same texts that start inside comments alike have the same diagnostics, but for
what `g` makes of the numbers of the lines. -/
theorem passFrom_correspond {k : ℕ} {g : Diagnostic → Diagnostic}
    (hg : ∀ number line, lineDiagnostics s (number + k) line = (lineDiagnostics s number line).map g)
    {ls ls' : List Line}
    (h : List.Forall₂ (fun l l' => l'.text = l.text ∧
      insideComment ss' l'.start = insideComment ss l.start) ls ls')
    (hs : ls.Pairwise (fun l m => l.start ≤ m.start))
    (hs' : ls'.Pairwise (fun l m => l.start ≤ m.start)) (number : ℕ) :
    passFrom s (number + k) ss' ls' = (passFrom s number ss ls).map g := by
  induction h generalizing number with
  | nil => rfl
  | @cons l l' ls ls' hl _ ih =>
    obtain ⟨hle,hs⟩ := List.pairwise_cons.mp hs
    obtain ⟨hle',hs'⟩ := List.pairwise_cons.mp hs'
    rw [passFrom_cons _ hle, passFrom_cons _ hle', hl.1, hl.2, List.map_append, ← ih hs hs',
      Nat.add_right_comm, hg]
    split_ifs <;> rfl

end Pass

section Brackets
variable {R : ℕ → ℕ → Prop}

/-- The same thing, at offsets that stand in a relation. -/
def AlikeAt {α : Type} (R : ℕ → ℕ → Prop) (p q : ℕ × α) : Prop := R p.1 q.1 ∧ p.2 = q.2

lemma exists_cons_of_alikeAt {α : Type} {o : ℕ} {x : α} {l l' : List (ℕ × α)}
    (h : List.Forall₂ (AlikeAt R) ((o, x) :: l) l') :
    ∃ o' m, l' = (o', x) :: m ∧ R o o' ∧ List.Forall₂ (AlikeAt R) l m := by
  obtain ⟨⟨o',x'⟩,m,⟨hR,hx⟩,hm,rfl⟩ := List.forall₂_cons_left_iff.mp h
  obtain rfl : x = x' := hx
  exact ⟨o',m,rfl,hR,hm⟩

lemma matchBrackets_opener {c : Char} (hc : isOpener c = true) (o : ℕ) (opened bs : List (ℕ × Char)) :
    matchBrackets opened ((o, c) :: bs) = matchBrackets ((o, c) :: opened) bs := by
  cases opened <;> simp [matchBrackets, hc]

lemma matchBrackets_other {c : Char} (hc : ¬ isOpener c = true) (hc' : ¬ isCloser c = true) (o : ℕ)
    (opened bs : List (ℕ × Char)) :
    matchBrackets opened ((o, c) :: bs) = matchBrackets opened bs := by
  cases opened <;> simp [matchBrackets, hc, hc']

/-- Matching makes no use of the offsets of brackets. -/
theorem matchBrackets_correspond {opened opened' bs bs' : List (ℕ × Char)}
    (ho : List.Forall₂ (AlikeAt R) opened opened') (hb : List.Forall₂ (AlikeAt R) bs bs') :
    List.Forall₂ (AlikeAt R) (matchBrackets opened bs) (matchBrackets opened' bs') := by
  fun_induction matchBrackets opened bs generalizing opened' bs' with
  | case1 opened =>
    cases hb
    rw [matchBrackets, List.forall₂_map_left_iff, List.forall₂_map_right_iff]
    refine (List.forall₂_reverse_iff.mpr ho).imp ?_
    rintro ⟨o,c⟩ ⟨o',c'⟩ ⟨hR,hc⟩
    exact ⟨hR,congrArg BracketFault.unclosed hc⟩
  | case2 opened o c rest hopen ih =>
    obtain ⟨o',bs',rfl,hR,hrest⟩ := exists_cons_of_alikeAt hb
    rw [matchBrackets_opener hopen]
    exact ih (.cons ⟨hR,rfl⟩ ho) hrest
  | case3 o c rest hopen hclose ih =>
    obtain ⟨o',bs',rfl,hR,hrest⟩ := exists_cons_of_alikeAt hb
    cases ho
    rw [matchBrackets, if_neg hopen, if_pos hclose]
    exact .cons ⟨hR,rfl⟩ (ih .nil hrest)
  | case4 o rest o₁ opener opened hopen hclose ih =>
    obtain ⟨o',bs',rfl,hR,hrest⟩ := exists_cons_of_alikeAt hb
    obtain ⟨o₁',opened',rfl,-,ho⟩ := exists_cons_of_alikeAt ho
    rw [matchBrackets, if_neg hopen, if_pos hclose]
    simpa using ih ho hrest
  | case5 o c rest hopen hclose o₁ opener opened hne ih =>
    obtain ⟨o',bs',rfl,hR,hrest⟩ := exists_cons_of_alikeAt hb
    obtain ⟨o₁',opened',rfl,-,ho⟩ := exists_cons_of_alikeAt ho
    rw [matchBrackets, if_neg hopen, if_pos hclose]
    simp only [hne, if_false]
    exact .cons ⟨hR,rfl⟩ (ih ho hrest)
  | case6 opened o c rest hopen hclose ih =>
    obtain ⟨o',bs',rfl,hR,hrest⟩ := exists_cons_of_alikeAt hb
    rw [matchBrackets_other hopen hclose]
    exact ih ho hrest

end Brackets

section Places
variable {index index' : LineIndex} {ts ts' : List Token} {g : ℕ × ℕ → ℕ × ℕ}

lemma map_eq_map_of_forall₂ {α β γ : Type} {f : α → γ} {f' : β → γ} {l : List α} {l' : List β}
    (h : List.Forall₂ (fun x y => f' y = f x) l l') : l'.map f' = l.map f := by
  induction h with
  | nil => rfl
  | cons h _ ih => rw [List.map_cons, List.map_cons, h, ih]

/-- Brackets at corresponding places have diagnostics at corresponding places. -/
theorem bracketDiagnostics_correspond
    (h : List.Forall₂ (AlikeAt fun o o' => index'.locate o' = g (index.locate o))
      (brackets ts) (brackets ts')) :
    bracketDiagnostics index' ts' = (bracketDiagnostics index ts).map (Diagnostic.move g) := by
  rw [bracketDiagnostics, bracketDiagnostics, List.map_map]
  apply map_eq_map_of_forall₂
  refine (matchBrackets_correspond .nil h).imp ?_
  rintro ⟨o,f⟩ ⟨o',f'⟩ ⟨hR,hf⟩
  obtain rfl : f = f' := hf
  simp only at hR
  simp only [bracketDiagnostic, Function.comp_apply, Diagnostic.move, hR]

/-- So have strings that nothing closes. -/
theorem stringDiagnostics_correspond
    (h : List.Forall₂ (fun o o' => index'.locate o' = g (index.locate o))
      (openStringsFrom 0 ts) (openStringsFrom 0 ts')) :
    stringDiagnostics index' ts' = (stringDiagnostics index ts).map (Diagnostic.move g) := by
  rw [stringDiagnostics, stringDiagnostics, List.map_map]
  apply map_eq_map_of_forall₂
  refine h.imp ?_
  intro o o' hR
  simp only [Function.comp_apply, Diagnostic.move, hR]

end Places

/-- What the pass over the lines of a text knows of it. -/
def settingOf (lang : Language) (rules : List Rule) (text : List Char) : Setting :=
  { lang, rules
    context := Context.ofText lang text
    wantsInclude := lang.isCFamily && !hasIoInclude lang text }

/-- What an analysis finds, before it is put in order. -/
def found (lang : Language) (keywords : List String) (rules : List Rule) (text : List Char) :
    List Diagnostic :=
  let tokens := Token.tokenize lang keywords text
  let index := LineIndex.ofText text
  passFrom (settingOf lang rules text) 1 (Token.spans tokens) (lines text) ++
    bracketDiagnostics index tokens ++ stringDiagnostics index tokens ++
    if lang.hasBlockComments then commentDiagnostics text else []

lemma analyze_eq_arrange (lang : Language) (keywords : List String) (rules : List Rule)
    (text : List Char) :
    analyze lang keywords rules text = Diagnostic.arrange (found lang keywords rules text) := rfl

end EditAssist.Analysis
