import EditAssist.Proofs.Search.Decomposition
import EditAssist.Proofs.Text.Boundary
import Mathlib.Data.Finset.Card
import Mathlib.Data.Finset.Image
import Mathlib.Order.Bounds.Defs

/-! How many occurrences fit into a text without overlapping: as many as are met from left to right.
The first occurrence ends before or where any other ends, so that of the occurrences in a set that do
not overlap at most one starts before its end; the others lie in what is left of the text. -/
namespace EditAssist.Search
open Text

/-- A text occurs in another at a byte offset. -/
def OccursAt (find text : List Char) (o : ℕ) : Prop := ∃ a b, text = a ++ find ++ b ∧ bytes a = o

/-- Offsets at which a text occurs in another, each two of them apart by at least its bytes. -/
structure Packs (find text : List Char) (S : Finset ℕ) : Prop where
  occurs : ∀ o ∈ S, OccursAt find text o
  apart : ∀ o ∈ S, ∀ o' ∈ S, o < o' → o + bytes find ≤ o'

section Packing
variable {find text p rest : List Char} {S : Finset ℕ}

lemma OccursAt.behind {o : ℕ} (h : OccursAt find rest o) (s : List Char) :
    OccursAt find (s ++ rest) (bytes s + o) := by
  obtain ⟨a,b,rfl,rfl⟩ := h
  exact ⟨s ++ a,b,by simp,bytes_append s a⟩

/-- An occurrence that does not start before the end of a beginning of the text is one in the rest. -/
lemma OccursAt.of_behind {o : ℕ} {s : List Char} (h : OccursAt find (s ++ rest) (bytes s + o)) :
    OccursAt find rest o := by
  obtain ⟨a,b,hab,ha⟩ := h
  rw [List.append_assoc] at hab
  obtain ⟨x,rfl,hrest⟩ := through_of_bytes_le hab (by omega)
  refine ⟨x,b,by rw [hrest, List.append_assoc],?_⟩
  rw [bytes_append] at ha
  omega

lemma NoneBefore.bytes_le {o : ℕ} (h : NoneBefore find p text) (ho : OccursAt find text o) :
    bytes p ≤ o := by
  obtain ⟨a,b,hab,rfl⟩ := ho
  obtain ⟨x,rfl⟩ := h a b hab
  rw [bytes_append]
  exact Nat.le_add_right _ _

/-- The offsets of a packing from the end of a beginning of the text on, counted from there. -/
def offsetsBehind (s : List Char) (S : Finset ℕ) : Finset ℕ :=
  (S.filter (bytes s ≤ ·)).image (· - bytes s)

lemma mem_offsetsBehind {s : List Char} {o : ℕ} : o ∈ offsetsBehind s S ↔ bytes s + o ∈ S := by
  simp only [offsetsBehind, Finset.mem_image, Finset.mem_filter]
  constructor
  · rintro ⟨x,⟨hx,hle⟩,rfl⟩
    rwa [Nat.add_sub_cancel' hle]
  · intro h
    exact ⟨bytes s + o,⟨h,Nat.le_add_right _ _⟩,Nat.add_sub_cancel_left _ _⟩

lemma card_offsetsBehind (s : List Char) (S : Finset ℕ) :
    (offsetsBehind s S).card = (S.filter (bytes s ≤ ·)).card := by
  apply Finset.card_image_of_injOn
  intro x hx y hy hxy
  have hx := (Finset.mem_filter.mp (Finset.mem_coe.mp hx)).2
  have hy := (Finset.mem_filter.mp (Finset.mem_coe.mp hy)).2
  dsimp only at hxy
  omega

lemma Packs.behind {s : List Char} (h : Packs find (s ++ rest) S) :
    Packs find rest (offsetsBehind s S) where
  occurs o ho := (h.occurs _ (mem_offsetsBehind.mp ho)).of_behind
  apart o ho o' ho' hlt := by
    have hle := h.apart _ (mem_offsetsBehind.mp ho) _ (mem_offsetsBehind.mp ho') (by omega)
    omega

/-- Of a packing, one offset at most lies before the end of the first occurrence. -/
lemma Packs.card_le (h : Packs find text S) (hfirst : NoneBefore find p text) :
    S.card ≤ 1 + (offsetsBehind (p ++ find) S).card := by
  have hone : (S.filter fun o => ¬ bytes (p ++ find) ≤ o).card ≤ 1 := by
    rw [Finset.card_le_one]
    intro o ho o' ho'
    rw [Finset.mem_filter, bytes_append] at ho ho'
    have hp := hfirst.bytes_le (h.occurs o ho.1)
    have hp' := hfirst.bytes_le (h.occurs o' ho'.1)
    rcases Nat.lt_trichotomy o o' with hlt | heq | hlt
    · have hle := h.apart o ho.1 o' ho'.1 hlt
      omega
    · exact heq
    · have hle := h.apart o' ho'.1 o ho.1 hlt
      omega
  have hsum := Finset.card_filter_add_card_filter_not (s := S) (bytes (p ++ find) ≤ ·)
  rw [card_offsetsBehind]
  omega

/-- No packing has more occurrences than are cut out from left to right. -/
theorem Packs.card_lt {ps : List (List Char)} (h : Packs find text S) (hps : Decomposes find text ps) :
    S.card < ps.length := by
  induction hps using Decomposes.induction generalizing S with
  | last p hnone =>
    have hempty : S = ∅ := by
      apply Finset.eq_empty_of_forall_notMem
      intro o ho
      obtain ⟨a,b,hab,-⟩ := h.occurs o ho
      exact hnone ⟨a,b,hab.symm⟩
    simp [hempty]
  | cons p rest ps hfirst _ ih =>
    have hcard := h.card_le hfirst
    have hbehind := ih h.behind
    rw [List.length_cons]
    omega

/-- An occurrence and a packing of what stands behind it. -/
lemma Packs.extend (hfind : find ≠ []) (p : List Char) (h : Packs find rest S) :
    ∃ T, Packs find (p ++ find ++ rest) T ∧ T.card = S.card + 1 := by
  have hpos := bytes_pos hfind
  have hmem : ∀ o ∈ S.image (bytes (p ++ find) + ·), ∃ o' ∈ S, o = bytes p + bytes find + o' := by
    intro o ho
    obtain ⟨o',ho',rfl⟩ := Finset.mem_image.mp ho
    exact ⟨o',ho',by rw [bytes_append]⟩
  refine ⟨insert (bytes p) (S.image (bytes (p ++ find) + ·)),⟨?_,?_⟩,?_⟩
  · intro o ho
    rcases Finset.mem_insert.mp ho with rfl | ho
    · exact ⟨p,rest,rfl,rfl⟩
    · obtain ⟨o',ho',rfl⟩ := Finset.mem_image.mp ho
      exact (h.occurs o' ho').behind (p ++ find)
  · intro o ho o' ho' hlt
    rcases Finset.mem_insert.mp ho with rfl | ho <;> rcases Finset.mem_insert.mp ho' with rfl | ho'
    · omega
    · obtain ⟨x,-,rfl⟩ := hmem o' ho'
      omega
    · obtain ⟨x,-,rfl⟩ := hmem o ho
      omega
    · obtain ⟨x,hx,rfl⟩ := hmem o ho
      obtain ⟨y,hy,rfl⟩ := hmem o' ho'
      have hle := h.apart x hx y hy (by omega)
      omega
  · rw [Finset.card_insert_of_notMem, Finset.card_image_of_injective _ fun x y h => Nat.add_left_cancel h]
    intro hp
    obtain ⟨x,-,hx⟩ := hmem _ hp
    omega

/-- The occurrences that are cut out from left to right make up a packing. -/
theorem Decomposes.exists_packs {ps : List (List Char)} (hfind : find ≠ [])
    (hps : Decomposes find text ps) : ∃ S, Packs find text S ∧ S.card + 1 = ps.length := by
  induction hps using Decomposes.induction with
  | last p _ => exact ⟨∅,⟨by simp,by simp⟩,rfl⟩
  | cons p rest ps _ _ ih =>
    obtain ⟨S,hS,hcard⟩ := ih
    obtain ⟨T,hT,hcard'⟩ := hS.extend hfind p
    exact ⟨T,hT,by rw [hcard', hcard, List.length_cons]⟩

end Packing

/-- The number of occurrences that are counted, and replaced, is the largest number of occurrences
no two of which overlap. -/
theorem count_isGreatest_packing (find text : List Char) (hfind : find ≠ []) :
    IsGreatest {k | ∃ S, Packs find text S ∧ S.card = k} (count find text) ∧
      ∀ replacement, (replaceAll find replacement text).2 = count find text := by
  have hcut := decomposes_pieces hfind text
  refine ⟨⟨?_,?_⟩,fun replacement => by rw [replaceAll_eq]⟩
  · obtain ⟨S,hS,hcard⟩ := hcut.exists_packs hfind
    exact ⟨S,hS,by rw [count, ← hcard, Nat.add_sub_cancel]⟩
  · rintro k ⟨S,hS,rfl⟩
    have hlt := hS.card_lt hcut
    rw [count]
    omega

/-- Three occurrences in a row of which each overlaps the next: two of them fit. -/
theorem count_isGreatest_packing_row :
    ['a', 'b', 'a'] ≠ [] ∧
      IsGreatest {k | ∃ S, Packs ['a', 'b', 'a'] ['a', 'b', 'a', 'b', 'a', 'b', 'a'] S ∧ S.card = k} 2 := by
  have hcount : count ['a', 'b', 'a'] ['a', 'b', 'a', 'b', 'a', 'b', 'a'] = 2 := by cbv
  have hgreatest := count_isGreatest_packing ['a', 'b', 'a'] ['a', 'b', 'a', 'b', 'a', 'b', 'a']
    (by decide)
  rw [hcount] at hgreatest
  exact ⟨by decide,hgreatest.1⟩

end EditAssist.Search
