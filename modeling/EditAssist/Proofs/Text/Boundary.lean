import EditAssist.Text.Bytes
import Mathlib.Data.List.Basic

/-! Boundaries of characters. An offset is a boundary of a text if the text can be cut there, and
cutting at bytes finds exactly those cuts: taking, dropping and slicing succeed at boundaries and
give the parts that the cut leaves. -/
namespace EditAssist.Text

/-- A byte offset at which a text can be cut between two characters, or at one of its ends. -/
def IsBoundary (t : List Char) (n : ℕ) : Prop := ∃ s r, t = s ++ r ∧ bytes s = n

@[simp] lemma isBoundary_zero (t : List Char) : IsBoundary t 0 := ⟨[],t,rfl,rfl⟩

lemma isBoundary_bytes (s r : List Char) : IsBoundary (s ++ r) (bytes s) := ⟨s,r,rfl,rfl⟩

lemma isBoundary_of_isPrefix {s t : List Char} (h : s <+: t) : IsBoundary t (bytes s) := by
  obtain ⟨r,rfl⟩ := h
  exact isBoundary_bytes s r

/-- A boundary of the beginning of a text is one of the text. -/
lemma IsBoundary.of_isPrefix {s t : List Char} {n : ℕ} (h : IsBoundary s n) (hp : s <+: t) :
    IsBoundary t n := by
  obtain ⟨a,b,rfl,rfl⟩ := h
  exact isBoundary_of_isPrefix ((List.prefix_append a b).trans hp)

/-- A boundary of a part of a text is one of the text, behind what stands before the part. -/
lemma IsBoundary.behind {t : List Char} {n : ℕ} (h : IsBoundary t n) (a b : List Char) :
    IsBoundary (a ++ t ++ b) (bytes a + n) := by
  obtain ⟨s,r,rfl,rfl⟩ := h
  exact ⟨a ++ s,r ++ b,by simp,by simp⟩

lemma IsBoundary.le_bytes {t : List Char} {n : ℕ} (h : IsBoundary t n) : n ≤ bytes t := by
  obtain ⟨s,r,rfl,rfl⟩ := h
  simp

lemma bytes_pos {t : List Char} (h : t ≠ []) : 0 < bytes t := by
  cases t with
  | nil => contradiction
  | cons c t =>
    have hc := c.utf8Size_pos
    rw [bytes_cons]
    omega

lemma dropBytes_cons_add (c : Char) (t : List Char) (n : ℕ) :
    dropBytes (c.utf8Size + n) (c :: t) = dropBytes n t := by
  have hc := c.utf8Size_pos
  obtain ⟨m,hm⟩ : ∃ m, c.utf8Size + n = m + 1 := ⟨c.utf8Size + n - 1,by omega⟩
  have hn : m + 1 - c.utf8Size = n := by omega
  rw [hm, dropBytes, if_pos (by omega), hn]

lemma takeBytes_cons_add (c : Char) (t : List Char) (n : ℕ) :
    takeBytes (c.utf8Size + n) (c :: t) = (takeBytes n t).map (c :: ·) := by
  have hc := c.utf8Size_pos
  obtain ⟨m,hm⟩ : ∃ m, c.utf8Size + n = m + 1 := ⟨c.utf8Size + n - 1,by omega⟩
  have hn : m + 1 - c.utf8Size = n := by omega
  rw [hm, takeBytes, if_pos (by omega), hn]

@[simp] theorem dropBytes_append (s r : List Char) : dropBytes (bytes s) (s ++ r) = some r := by
  induction s with
  | nil => simp [dropBytes]
  | cons c s ih => rw [bytes_cons, List.cons_append, dropBytes_cons_add, ih]

@[simp] theorem takeBytes_append (s r : List Char) : takeBytes (bytes s) (s ++ r) = some s := by
  induction s with
  | nil => simp [takeBytes]
  | cons c s ih => rw [bytes_cons, List.cons_append, takeBytes_cons_add, ih, Option.map_some]

/-- A text can be cut at an offset in one way only. -/
lemma append_inj_of_bytes {s r s' r' : List Char} (h : s ++ r = s' ++ r') (hb : bytes s = bytes s') :
    s = s' ∧ r = r' := by
  have hr : some r = some r' := by
    rw [← dropBytes_append s r, h, hb, dropBytes_append]
  obtain rfl := Option.some.inj hr
  exact ⟨List.append_cancel_right h,rfl⟩

/-- A beginning of a text goes through a piece at its start or stops inside of it. -/
lemma through_or_inside {w r x y : List Char} (h : w ++ r = x ++ y) :
    (∃ x', x = w ++ x' ∧ r = x' ++ y) ∨ ∃ z, z ≠ [] ∧ w = x ++ z := by
  rcases List.append_eq_append_iff.mp h with ⟨x',hx,hr⟩ | ⟨z,hw,hy⟩
  · exact .inl ⟨x',hx,hr⟩
  · by_cases hz : z = []
    · subst hz
      exact .inl ⟨[],by simpa using hw.symm,by simpa using hy.symm⟩
    · exact .inr ⟨z,hz,hw⟩

/-- A beginning of a text that is not shorter than a piece at its start goes through the piece. -/
lemma through_of_bytes_le {w r x y : List Char} (h : w ++ r = x ++ y) (hle : bytes w ≤ bytes x) :
    ∃ x', x = w ++ x' ∧ r = x' ++ y := by
  refine (through_or_inside h).resolve_right ?_
  rintro ⟨z,hz,rfl⟩
  have hpos := bytes_pos hz
  rw [bytes_append] at hle
  omega

/-- One that is shorter stops inside of it. -/
lemma inside_of_bytes_lt {w r x y : List Char} (h : w ++ r = x ++ y) (hlt : bytes x < bytes w) :
    ∃ z, z ≠ [] ∧ w = x ++ z := by
  refine (through_or_inside h).resolve_left ?_
  rintro ⟨x',rfl,-⟩
  rw [bytes_append] at hlt
  omega

/-- Dropping bytes finds the one cut at an offset. -/
theorem dropBytes_eq_some_iff {n : ℕ} {t r : List Char} :
    dropBytes n t = some r ↔ ∃ s, t = s ++ r ∧ bytes s = n := by
  constructor
  · intro h
    induction t generalizing n with
    | nil =>
      cases n with
      | zero => exact ⟨[],by simpa [dropBytes] using h,rfl⟩
      | succ n => simp [dropBytes] at h
    | cons c t ih =>
      cases n with
      | zero => exact ⟨[],by simpa [dropBytes] using h,rfl⟩
      | succ n =>
        rw [dropBytes] at h
        split_ifs at h with hc
        obtain ⟨s,rfl,hs⟩ := ih h
        exact ⟨c :: s,rfl,by rw [bytes_cons]; omega⟩
  · rintro ⟨s,rfl,rfl⟩
    exact dropBytes_append s r

theorem isBoundary_iff_dropBytes {t : List Char} {n : ℕ} :
    IsBoundary t n ↔ (dropBytes n t).isSome := by
  rw [Option.isSome_iff_exists]
  constructor
  · rintro ⟨s,r,h⟩
    exact ⟨r,dropBytes_eq_some_iff.mpr ⟨s,h⟩⟩
  · rintro ⟨r,h⟩
    obtain ⟨s,h⟩ := dropBytes_eq_some_iff.mp h
    exact ⟨s,r,h⟩

lemma isBoundary_of_dropBytes {n : ℕ} {t r : List Char} (h : dropBytes n t = some r) :
    IsBoundary t n := by
  rw [isBoundary_iff_dropBytes, h, Option.isSome_some]

/-- A cut before a character leads to the cut behind it. -/
lemma dropBytes_add_of_cons {n : ℕ} {t r : List Char} {c : Char}
    (h : dropBytes n t = some (c :: r)) : dropBytes (n + c.utf8Size) t = some r := by
  obtain ⟨s,rfl,rfl⟩ := dropBytes_eq_some_iff.mp h
  exact dropBytes_eq_some_iff.mpr ⟨s ++ [c],by simp,by simp⟩

instance (t : List Char) (n : ℕ) : Decidable (IsBoundary t n) :=
  decidable_of_iff _ isBoundary_iff_dropBytes.symm

lemma Extent.contains_iff {e : Extent} {n : ℕ} : e.contains n = true ↔ e.start ≤ n ∧ n < e.stop := by
  rw [Extent.contains, Bool.and_eq_true, decide_eq_true_eq, decide_eq_true_eq]

/-- The slice of a part that stands between two others is the part. -/
@[simp] theorem Extent.slice?_append (a b c : List Char) :
    (Extent.mk (bytes a) (bytes a + bytes b)).slice? (a ++ b ++ c) = some b := by
  simp [Extent.slice?]

example : IsBoundary "aéb".toList 3 ∧ ¬ IsBoundary "aéb".toList 2 := by decide

end EditAssist.Text
