import EditAssist.Search
import EditAssist.Text.Bytes
import Mathlib.Data.List.Infix

/-! Search and replace as a cut of the text. A text falls into pieces with the searched text between
them, where each occurrence that is cut out is the first one in what is left of the text, and none is
left in the last piece. There is one such cut; the search finds it, and replacing puts another text
between its pieces. -/
namespace EditAssist.Search
open Text

/-- Every occurrence of `find` in a text stands behind the beginning `p`. -/
def NoneBefore (find p text : List Char) : Prop := ∀ a b, text = a ++ find ++ b → p <+: a

/-- Pieces of a text with `find` between each two. In the part of the text that starts with a piece,
`find` occurs first right behind the piece, unless it is the last one; in that it does not occur. -/
structure Decomposes (find text : List Char) (ps : List (List Char)) : Prop where
  text_eq : text = find.intercalate ps
  first : ∀ p q qs, p :: q :: qs <:+ ps → NoneBefore find p (find.intercalate (p :: q :: qs))
  last : ∃ p, ps.getLast? = some p ∧ ¬ find <:+: p

section Pieces
variable {find text p q : List Char} {ps qs : List (List Char)}

lemma decomposes_singleton_iff : Decomposes find text [p] ↔ text = p ∧ ¬ find <:+: p := by
  constructor
  · intro h
    obtain ⟨p',hp',hlast⟩ := h.last
    obtain rfl : p = p' := by simpa using hp'
    exact ⟨by simpa using h.text_eq,hlast⟩
  · rintro ⟨rfl,hlast⟩
    refine ⟨by simp,?_,text,rfl,hlast⟩
    intro p q qs hsuffix
    have hlen := hsuffix.length_le
    simp at hlen

/-- A cut is its first piece and a cut of what stands behind the first occurrence. -/
lemma decomposes_cons_iff :
    Decomposes find text (p :: q :: qs) ↔
      ∃ rest, text = p ++ find ++ rest ∧ NoneBefore find p text ∧ Decomposes find rest (q :: qs) := by
  constructor
  · intro h
    refine ⟨find.intercalate (q :: qs),?_,?_,rfl,?_,?_⟩
    · rw [h.text_eq, List.intercalate_cons_cons]
    · rw [h.text_eq]
      exact h.first p q qs (List.suffix_refl _)
    · intro p' q' qs' hsuffix
      exact h.first p' q' qs' (hsuffix.trans (List.suffix_cons p _))
    · simpa using h.last
  · rintro ⟨rest,htext,hfirst,h⟩
    have hjoin : text = find.intercalate (p :: q :: qs) := by
      rw [List.intercalate_cons_cons, ← h.text_eq, htext]
    refine ⟨hjoin,?_,by simpa using h.last⟩
    intro p' q' qs' hsuffix
    rcases List.suffix_cons_iff.mp hsuffix with heq | hsuffix
    · rw [heq, ← hjoin]
      obtain rfl := (List.cons.inj heq).1
      exact hfirst
    · exact h.first p' q' qs' hsuffix

lemma Decomposes.exists_cons (h : Decomposes find text ps) : ∃ p qs, ps = p :: qs := by
  obtain ⟨p,hp,-⟩ := h.last
  exact List.exists_cons_of_ne_nil (List.ne_nil_of_mem (List.mem_of_getLast? hp))

/-- One more piece in front. -/
lemma Decomposes.cons {rest : List Char} (h : Decomposes find rest ps)
    (hfirst : NoneBefore find p (p ++ find ++ rest)) :
    Decomposes find (p ++ find ++ rest) (p :: ps) := by
  obtain ⟨q,qs,rfl⟩ := h.exists_cons
  exact decomposes_cons_iff.mpr ⟨rest,rfl,hfirst,h⟩

/-- Induction along a cut, from its last piece to its first. -/
@[elab_as_elim]
theorem Decomposes.induction {motive : ∀ text ps, Decomposes find text ps → Prop}
    (last : ∀ p (hnone : ¬ find <:+: p), motive p [p] (decomposes_singleton_iff.mpr ⟨rfl,hnone⟩))
    (cons : ∀ p rest ps (hfirst : NoneBefore find p (p ++ find ++ rest))
      (hrest : Decomposes find rest ps), motive rest ps hrest →
      motive (p ++ find ++ rest) (p :: ps) (hrest.cons hfirst))
    (h : Decomposes find text ps) : motive text ps h := by
  induction ps generalizing text with
  | nil =>
    obtain ⟨p,qs,hnil⟩ := h.exists_cons
    contradiction
  | cons p ps ih =>
    cases ps with
    | nil =>
      obtain ⟨rfl,hnone⟩ := decomposes_singleton_iff.mp h
      exact last text hnone
    | cons q qs =>
      obtain ⟨rest,rfl,hfirst,hrest⟩ := decomposes_cons_iff.mp h
      exact cons p rest _ hfirst hrest (ih hrest)

/-- A text without occurrences is one piece. -/
lemma Decomposes.eq_singleton (h : Decomposes find text ps) (hnone : ¬ find <:+: text) :
    ps = [text] := by
  cases h using Decomposes.induction with
  | last p _ => rfl
  | cons p rest ps _ _ _ => exact absurd ⟨p,rest,rfl⟩ hnone

/-- A text is cut in one way only. -/
theorem Decomposes.unique (h : Decomposes find text ps) (h' : Decomposes find text qs) : ps = qs := by
  induction h using Decomposes.induction generalizing qs with
  | last p hnone => exact (h'.eq_singleton hnone).symm
  | cons p rest ps hfirst _ ih =>
    obtain ⟨q,qs,rfl⟩ := h'.exists_cons
    cases qs with
    | nil =>
      obtain ⟨rfl,hnone⟩ := decomposes_singleton_iff.mp h'
      exact absurd ⟨p,rest,rfl⟩ hnone
    | cons q' qs =>
      obtain ⟨rest',htext',hfirst',hrest'⟩ := decomposes_cons_iff.mp h'
      -- each first piece ends at the first occurrence, so neither goes on behind the other
      obtain rfl : p = q := (hfirst q rest' htext').eq_of_length_le (hfirst' p rest rfl).length_le
      obtain rfl : rest = rest' := List.append_cancel_left htext'
      rw [ih hrest']

end Pieces

/-- The first piece goes on over a character at which `find` does not start. -/
lemma NoneBefore.concat {find p t : List Char} {d : Char} (h : NoneBefore find p (p ++ d :: t))
    (hd : ¬ find <+: d :: t) : NoneBefore find (p ++ [d]) (p ++ d :: t) := by
  intro a b hab
  obtain ⟨x,rfl⟩ := h a b hab
  rw [List.append_assoc, List.append_assoc, List.append_cancel_left_eq] at hab
  cases x with
  | nil => exact absurd ⟨b,hab.symm⟩ hd
  | cons e x =>
    obtain ⟨rfl,-⟩ := List.cons.inj hab
    exact ⟨x,by simp⟩

/-- The search finds a cut, if it has not gone past an occurrence. -/
theorem decomposes_piecesFrom (c : Char) (part done text : List Char)
    (h : NoneBefore (c :: part) done.reverse (done.reverse ++ text)) :
    Decomposes (c :: part) (done.reverse ++ text) (piecesFrom c part done text) := by
  fun_induction piecesFrom c part done text with
  | case1 done =>
    rw [List.append_nil] at h ⊢
    refine decomposes_singleton_iff.mpr ⟨rfl,?_⟩
    rintro ⟨a,b,hab⟩
    have hlen := (h a b hab.symm).length_le
    have htotal := congrArg List.length hab
    simp only [List.length_append, List.length_cons] at htotal
    omega
  | case2 done d rest hfound ih =>
    obtain ⟨r,hr⟩ := List.isPrefixOf_iff_prefix.mp hfound
    obtain ⟨rfl,htail⟩ := List.cons.inj hr
    obtain rfl : part ++ r = rest := htail
    rw [List.drop_left] at ih ⊢
    have hrest := ih fun a b _ => List.nil_prefix
    rw [← List.cons_append, ← List.append_assoc] at h ⊢
    exact hrest.cons h
  | case3 done d rest hnot ih =>
    have hd : ¬ c :: part <+: d :: rest := fun hp => hnot (List.isPrefixOf_iff_prefix.mpr hp)
    have hnext := ih (by simpa using h.concat hd)
    simpa using hnext

theorem decomposes_pieces {find : List Char} (h : find ≠ []) (text : List Char) :
    Decomposes find text (pieces find text) := by
  obtain ⟨c,part,rfl⟩ := List.exists_cons_of_ne_nil h
  exact decomposes_piecesFrom c part [] text fun a b _ => List.nil_prefix

/-- A text is put between pieces once less than there are pieces. -/
lemma join_eq (between : List Char) (ps : List (List Char)) :
    join between ps = (between.intercalate ps, ps.length - 1) := by
  induction ps with
  | nil => rfl
  | cons p ps ih =>
    cases ps with
    | nil => simp [join]
    | cons q qs =>
      have hnext : join between (p :: q :: qs) =
          (p ++ between ++ (join between (q :: qs)).1, (join between (q :: qs)).2 + 1) := rfl
      rw [hnext, ih, List.intercalate_cons_cons]
      simp

/-- As many occurrences are replaced as are counted. -/
lemma replaceAll_eq (find replacement text : List Char) :
    replaceAll find replacement text = (replacement.intercalate (pieces find text), count find text) :=
  join_eq replacement (pieces find text)

/-- A text between pieces takes its bytes once less than there are pieces. -/
lemma bytes_intercalate (between : List Char) {ps : List (List Char)} {n : ℕ}
    (h : ps.length = n + 1) :
    bytes (between.intercalate ps) = bytes ps.flatten + n * bytes between := by
  induction ps generalizing n with
  | nil => simp at h
  | cons p ps ih =>
    cases ps with
    | nil =>
      obtain rfl : n = 0 := by simpa using h.symm
      simp
    | cons q qs =>
      obtain ⟨m,rfl⟩ : ∃ m, n = m + 1 := ⟨qs.length,by simpa using h.symm⟩
      rw [List.intercalate_cons_cons, List.flatten_cons, bytes_append, bytes_append, bytes_append,
        ih (by simpa using h), Nat.succ_mul]
      omega

/-- Replacing is cutting and joining. A text is cut in one way into `n + 1` pieces at the first
occurrences of a text that is not empty; replacing gives the pieces with the replacement between them
and the number `n`, as does counting. So each replacement changes the number of bytes by the same
amount, and replacing a text by itself changes nothing. An empty text is found nowhere. -/
theorem replaceAll_is_leftmost (find replacement text : List Char) :
    (find ≠ [] → ∃ ps n, Decomposes find text ps ∧ (∀ qs, Decomposes find text qs → qs = ps) ∧
      ps.length = n + 1 ∧ replaceAll find replacement text = (replacement.intercalate ps, n) ∧
      count find text = n ∧
      bytes (replaceAll find replacement text).1 + n * bytes find =
        bytes text + n * bytes replacement ∧
      replaceAll find find text = (text, n)) ∧
    replaceAll [] replacement text = (text, 0) ∧ count [] text = 0 := by
  refine ⟨?_,rfl,rfl⟩
  intro hfind
  have hcut := decomposes_pieces hfind text
  obtain ⟨p,qs,hp⟩ := hcut.exists_cons
  obtain ⟨n,hn⟩ : ∃ n, (pieces find text).length = n + 1 := ⟨qs.length,by rw [hp, List.length_cons]⟩
  have hcount : count find text = n := by rw [count, hn, Nat.add_sub_cancel]
  have hreplace (r : List Char) : replaceAll find r text = (r.intercalate (pieces find text), n) := by
    rw [replaceAll_eq, hcount]
  refine ⟨pieces find text,n,hcut,fun qs hqs => hqs.unique hcut,hn,hreplace replacement,hcount,?_,?_⟩
  · have htext : bytes text = bytes (pieces find text).flatten + n * bytes find := by
      rw [← bytes_intercalate find hn, ← hcut.text_eq]
    rw [hreplace, bytes_intercalate replacement hn, htext]
    omega
  · rw [hreplace, ← hcut.text_eq]

/-- Of two occurrences that overlap the first is replaced, once, also by a text that holds it. -/
theorem replaceAll_is_leftmost_overlapping :
    let find := ['é', 'é']
    let text := ['é', 'é', 'é']
    find ≠ [] ∧ ∃ ps, Decomposes find text ps ∧ ps.length = 2 ∧
      replaceAll find ['é', 'é', 'x'] text = (['é', 'é', 'x'].intercalate ps, 1) ∧
      replaceAll find find text = (text, 1) := by
  intro find text
  have hcount : count find text = 1 := by cbv
  obtain ⟨hcut,-,-⟩ := replaceAll_is_leftmost find ['é', 'é', 'x'] text
  obtain ⟨ps,n,hps,-,hlen,hreplace,hn,-,hself⟩ := hcut (by decide)
  obtain rfl : n = 1 := hn.symm.trans hcount
  exact ⟨by decide,ps,hps,hlen,hreplace,hself⟩

end EditAssist.Search
