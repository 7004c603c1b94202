import EditAssist.Proofs.Token.Segmentation
import Mathlib.Order.Bounds.Basic

/-! The quote that closes a string, told by the offsets of a text. The search carries along whether the
character before was an escaping backslash; what it finds is the first quote right before which an even
number of backslashes stands, counted back to the opening quote at most. -/
namespace EditAssist.Token
open Text

/-- A character stands in a text at a byte offset. -/
def HoldsAt (text : List Char) (o : ℕ) (c : Char) : Prop := ∃ r, dropBytes o text = some (c :: r)

/-- From the offset `lo` on, `k` backslashes and no more stand right before the offset `o`. -/
structure IsBackslashRun (text : List Char) (lo o k : ℕ) : Prop where
  le : lo + k ≤ o
  holds : ∀ i < k, HoldsAt text (o - 1 - i) '\\'
  longest : lo + k < o → ¬ HoldsAt text (o - 1 - k) '\\'

/-- The quote that stands at `o` closes the string that the same quote opens at `start`, unless one
before it does. -/
structure ClosesAt (text : List Char) (start : ℕ) (q : Char) (o : ℕ) : Prop where
  behind : start < o
  holds : HoldsAt text o q
  even : ∃ k, IsBackslashRun text (start + 1) o k ∧ Even k

section Runs
variable {text : List Char} {lo o k : ℕ}

lemma bytes_concat (t : List Char) (c : Char) : bytes (t ++ [c]) = bytes t + c.utf8Size := by simp

lemma holdsAt_iff {c : Char} : HoldsAt text o c ↔ ∃ a b, text = a ++ c :: b ∧ bytes a = o := by
  unfold HoldsAt
  simp only [dropBytes_eq_some_iff]
  exact exists_comm

/-- The character before a place of a text is the last of what stands before the place. -/
lemma holdsAt_concat_iff (u : List Char) (c : Char) (r : List Char) :
    HoldsAt (u ++ [c] ++ r) (bytes (u ++ [c]) - 1) '\\' ↔ c = '\\' := by
  rw [holdsAt_iff]
  constructor
  · rintro ⟨a,b,hab,ha⟩
    have hpos : 0 < bytes (u ++ [c]) := bytes_pos (by simp)
    have hbytes : bytes (u ++ [c]) = bytes (a ++ ['\\']) := by
      rw [bytes_concat a, show ('\\' : Char).utf8Size = 1 from rfl]
      omega
    rw [List.append_cons a] at hab
    obtain ⟨he,-⟩ := append_inj_of_bytes hab hbytes
    simpa using (List.append_inj' he rfl).2
  · rintro rfl
    refine ⟨u,r,by simp,?_⟩
    rw [bytes_concat, show ('\\' : Char).utf8Size = 1 from rfl]
    omega

/-- One more backslash makes a run longer by one. -/
lemma isBackslashRun_succ_iff (hlo : lo ≤ o) (h : HoldsAt text o '\\') :
    IsBackslashRun text lo (o + 1) k ↔ ∃ j, IsBackslashRun text lo o j ∧ k = j + 1 := by
  have hback : ∀ i, o + 1 - 1 - (i + 1) = o - 1 - i := by omega
  constructor
  · intro hrun
    cases k with
    | zero => exact absurd h (hrun.longest (by omega))
    | succ j =>
      have hle := hrun.le
      refine ⟨j,⟨by omega,?_,?_⟩,rfl⟩
      · intro i hi
        rw [← hback]
        exact hrun.holds (i + 1) (by omega)
      · intro hlt
        rw [← hback]
        exact hrun.longest (by omega)
  · rintro ⟨j,hrun,rfl⟩
    have hle := hrun.le
    refine ⟨by omega,?_,?_⟩
    · intro i hi
      cases i with
      | zero => exact h
      | succ i =>
        rw [hback]
        exact hrun.holds i (by omega)
    · intro hlt
      rw [hback]
      exact hrun.longest (by omega)

/-- Behind any other character there is no run. -/
lemma isBackslashRun_iff_of_not_holdsAt (hlo : lo < o) (h : ¬ HoldsAt text (o - 1) '\\') :
    IsBackslashRun text lo o k ↔ k = 0 := by
  constructor
  · intro hrun
    cases k with
    | zero => rfl
    | succ j => exact absurd (hrun.holds 0 (by omega)) h
  · rintro rfl
    exact ⟨by omega,by simp,fun _ => h⟩

/-- The run behind a part of a text, counted back to where the part begins, is the one that the part
ends in. -/
theorem isBackslashRun_append_iff (x w r : List Char) (k : ℕ) :
    IsBackslashRun (x ++ w ++ r) (bytes x) (bytes (x ++ w)) k ↔
      k = (w.rtakeWhile (· = '\\')).length := by
  induction w using List.reverseRecOn generalizing r k with
  | nil =>
    rw [List.append_nil]
    constructor
    · intro hrun
      have hle := hrun.le
      change k = 0
      omega
    · rintro rfl
      exact ⟨Nat.le_refl _,by simp,fun hlt => absurd hlt (by simp)⟩
  | append_singleton w c ih =>
    have hpos := c.utf8Size_pos
    have hbytes := bytes_concat (x ++ w) c
    have hlo : bytes x ≤ bytes (x ++ w) := by simp
    have hlast := holdsAt_concat_iff (x ++ w) c r
    rw [← List.append_assoc x w [c], List.rtakeWhile_concat]
    by_cases hc : c = '\\'
    · subst hc
      have hsize : ('\\' : Char).utf8Size = 1 := rfl
      have hholds := hlast.mpr rfl
      rw [hbytes, hsize, Nat.add_sub_cancel] at hholds
      rw [hbytes, hsize, isBackslashRun_succ_iff hlo hholds]
      have hbefore := ih (['\\'] ++ r)
      rw [← List.append_assoc] at hbefore
      simp only [hbefore, exists_eq_left]
      simp
    · rw [isBackslashRun_iff_of_not_holdsAt (by omega) (by rwa [hlast])]
      simp [hc]

end Runs

section Closing
variable {a body : List Char} {q : Char} {o : ℕ}

/-- The quotes that could close a string are those in which a beginning of its body ends unescaped. -/
lemma closesAt_iff (hq : q.utf8Size = 1) :
    ClosesAt (a ++ q :: body) (bytes a) q o ↔
      ∃ v, v <+: body ∧ EndsInQuote q v ∧ o = bytes a + bytes v := by
  have hopen : bytes (a ++ [q]) = bytes a + 1 := by rw [bytes_concat, hq]
  have hplace : ∀ u, bytes (a ++ [q] ++ u) = bytes a + bytes (u ++ [q]) := by
    intro u
    rw [bytes_append, bytes_concat, bytes_concat]
    omega
  have hrun : ∀ u r k, IsBackslashRun (a ++ q :: (u ++ r)) (bytes a + 1) (bytes (a ++ [q] ++ u)) k ↔
      k = (u.rtakeWhile (· = '\\')).length := by
    intro u r k
    rw [List.append_cons, ← List.append_assoc (a ++ [q]), ← hopen]
    exact isBackslashRun_append_iff (a ++ [q]) u r k
  constructor
  · rintro ⟨hlt,hholds,k,hk,heven⟩
    obtain ⟨a',b,hab,rfl⟩ := holdsAt_iff.mp hholds
    rw [List.append_cons] at hab
    obtain ⟨u,rfl,rfl⟩ := through_of_bytes_le hab (by omega)
    rw [hrun] at hk
    refine ⟨u ++ [q],⟨b,by simp⟩,⟨u,rfl,?_⟩,hplace u⟩
    rwa [Escapes, ← hk, Nat.not_odd_iff_even]
  · rintro ⟨v,⟨r,rfl⟩,⟨u,rfl,hesc⟩,rfl⟩
    have hpos : 0 < bytes (u ++ [q]) := bytes_pos (by simp)
    rw [Escapes, Nat.not_odd_iff_even] at hesc
    rw [List.append_assoc, ← hplace]
    refine ⟨by rw [hplace]; omega,?_,_,(hrun u _ _).mpr rfl,hesc⟩
    exact holdsAt_iff.mpr ⟨a ++ [q] ++ u,r,by simp,rfl⟩

lemma utf8Size_quote (hq : q = '"' ∨ q = '\'') : q.utf8Size = 1 := by
  obtain rfl | rfl := hq <;> rfl

lemma not_closesAt_of_quoteReach? (hq : q = '"' ∨ q = '\'') (h : quoteReach? q false body = none) :
    ¬ ClosesAt (a ++ q :: body) (bytes a) q o := by
  have hnone := finds_closingQuote hq body
  rw [h] at hnone
  intro ho
  obtain ⟨v,hv,hend,-⟩ := (closesAt_iff (utf8Size_quote hq)).mp ho
  exact hnone v hv hend

lemma isLeast_of_quoteReach? (hq : q = '"' ∨ q = '\'') {n : ℕ}
    (h : quoteReach? q false body = some n) :
    IsLeast {o | ClosesAt (a ++ q :: body) (bytes a) q o} (bytes a + bytes (body.take n)) := by
  have hfind := finds_closingQuote hq body
  rw [h] at hfind
  obtain ⟨hend,hfirst⟩ := hfind
  have hsize := utf8Size_quote hq
  refine ⟨(closesAt_iff hsize).mpr ⟨_,List.take_prefix n body,hend,rfl⟩,?_⟩
  intro o ho
  obtain ⟨v,hv,hvend,rfl⟩ := (closesAt_iff hsize).mp ho
  -- of two beginnings of the body one goes through the other, and no shorter one ends in a quote
  obtain hshort | ⟨r,rfl⟩ := List.prefix_or_prefix_of_prefix hv (List.take_prefix n body)
  · rw [hfirst v hshort hvend]
  · rw [bytes_append]
    omega

end Closing

/-- What the offsets say is what the search behind the opening quote finds. -/
lemma closingQuote?_append (a : List Char) (q : Char) (body : List Char) :
    closingQuote? (a ++ q :: body) (bytes a) q =
      (quoteReach? q false body).map fun n => bytes a + q.utf8Size + bytes (body.take n) := by
  have hbody : dropBytes (bytes a + q.utf8Size) (a ++ q :: body) = some body := by
    rw [← bytes_concat, List.append_cons a q body, dropBytes_append]
  rw [closingQuote?, hbody, Option.bind_some]

/-- A string is closed by the first quote before which an even number of backslashes stands. For a text
that has a quote at `start`, the search for its end stops right behind the least offset at which the
quote stands again and the run of backslashes before it, counted back to `start + 1` at most, is even; it
finds nothing exactly if there is no such offset. -/
theorem closingQuote?_finds_even_run (text : List Char) (start : ℕ) (q : Char)
    (hq : q = '"' ∨ q = '\'') (hstart : HoldsAt text start q) :
    (∀ e, closingQuote? text start q = some e ↔
      ∃ o, IsLeast {o | ClosesAt text start q o} o ∧ e = o + 1) ∧
    (closingQuote? text start q = none ↔ ∀ o, ¬ ClosesAt text start q o) := by
  obtain ⟨a,body,rfl,rfl⟩ := holdsAt_iff.mp hstart
  rw [closingQuote?_append]
  cases hreach : quoteReach? q false body with
  | none =>
    have hnone : ∀ o, ¬ ClosesAt (a ++ q :: body) (bytes a) q o := by
      intro o
      exact not_closesAt_of_quoteReach? hq hreach
    refine ⟨?_,by simp [hnone]⟩
    intro e
    constructor
    · simp
    · rintro ⟨o,ho,-⟩
      exact absurd ho.1 (hnone o)
  | some n =>
    have hleast : IsLeast {o | ClosesAt (a ++ q :: body) (bytes a) q o} _ :=
      isLeast_of_quoteReach? hq hreach
    have hstop : bytes a + q.utf8Size + bytes (body.take n) =
        bytes a + bytes (body.take n) + 1 := by
      rw [utf8Size_quote hq]
      omega
    rw [Option.map_some, hstop]
    refine ⟨?_,?_⟩
    · intro e
      constructor
      · intro he
        exact ⟨_,hleast,(Option.some.inj he).symm⟩
      · rintro ⟨o,ho,rfl⟩
        rw [ho.unique hleast]
    · simp only [reduceCtorEq, false_iff, not_forall, not_not]
      exact ⟨_,hleast.1⟩

/-- One quote behind one backslash, and then one behind two. -/
theorem closingQuote?_finds_even_run_second :
    let text := ['x', '"', '\\', '"', '\\', '\\', '"', 'y']
    HoldsAt text 1 '"' ∧ closingQuote? text 1 '"' = some 7 ∧
      IsLeast {o | ClosesAt text 1 '"' o} 6 := by
  intro text
  have hstart : HoldsAt text 1 '"' := ⟨['\\', '"', '\\', '\\', '"', 'y'],by decide⟩
  have hstop : closingQuote? text 1 '"' = some 7 := by decide
  obtain ⟨hfound,-⟩ := closingQuote?_finds_even_run text 1 '"' (.inl rfl) hstart
  obtain ⟨o,ho,he⟩ := (hfound 7).mp hstop
  obtain rfl : 6 = o := Nat.succ.inj he
  exact ⟨hstart,hstop,ho⟩

end EditAssist.Token
