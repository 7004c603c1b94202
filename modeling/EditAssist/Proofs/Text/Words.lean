import EditAssist.Proofs.Text.Boundary
import EditAssist.Text.Words
import Mathlib.Data.List.TakeWhile
import Mathlib.Order.Bounds.Defs

/-! Words of a line and where they stand. A word stands in a line wherever its characters do and no
word character touches them. Such an occurrence never crosses the end of a run of word characters, so
the runs that the scan cuts out are all of them, from left to right; the column of a word is the first
place where it stands. -/
namespace EditAssist.Text

/-- A text stands in a line at a byte offset, and no word character right before or behind it. -/
def WordAt (line w : List Char) (o : ℕ) : Prop :=
  ∃ a b, line = a ++ w ++ b ∧ bytes a = o ∧ (∀ c ∈ a.getLast?, ¬ isWordChar c) ∧
    ∀ c ∈ b.head?, ¬ isWordChar c

/-- A text that is a word: it has characters, and only word characters. -/
structure IsWord (w : List Char) : Prop where
  ne_nil : w ≠ []
  isWordChar : ∀ c ∈ w, isWordChar c

/-- No word runs from the one text into the other. -/
def Apart (x t : List Char) : Prop :=
  ∀ c ∈ x.getLast?, ∀ d ∈ t.head?, ¬ (isWordChar c ∧ isWordChar d)

section Cut
variable {x t w : List Char} {o : ℕ}

lemma WordAt.append (hw : IsWord w) (hxt : Apart x t) (h : WordAt x w o) : WordAt (x ++ t) w o := by
  obtain ⟨a,b,rfl,ha,hbefore,hbehind⟩ := h
  refine ⟨a,b ++ t,by simp,ha,hbefore,?_⟩
  intro c hc hword
  cases b with
  | cons d b => exact hbehind c hc hword
  | nil =>
    have hlast : w.getLast hw.ne_nil ∈ (a ++ w ++ []).getLast? := by
      rw [List.append_nil, List.getLast?_append_of_ne_nil _ hw.ne_nil]
      exact List.getLast?_eq_some_getLast hw.ne_nil
    exact hxt _ hlast c hc ⟨hw.isWordChar _ (List.getLast_mem hw.ne_nil),hword⟩

lemma WordAt.behind (hw : IsWord w) (hxt : Apart x t) (h : WordAt t w o) :
    WordAt (x ++ t) w (bytes x + o) := by
  obtain ⟨a,b,rfl,rfl,hbefore,hbehind⟩ := h
  refine ⟨x ++ a,b,by simp,bytes_append x a,?_,hbehind⟩
  intro c hc hword
  by_cases ha : a = []
  · subst ha
    obtain ⟨d,w,rfl⟩ := List.exists_cons_of_ne_nil hw.ne_nil
    exact hxt c (by simpa using hc) d rfl ⟨hword,hw.isWordChar d List.mem_cons_self⟩
  · rw [List.getLast?_append_of_ne_nil _ ha] at hc
    exact hbefore c hc hword

/-- A word in two texts that are apart lies in the one or in the other. -/
theorem wordAt_append_iff (hw : IsWord w) (hxt : Apart x t) :
    WordAt (x ++ t) w o ↔ WordAt x w o ∨ ∃ k, WordAt t w k ∧ o = bytes x + k := by
  constructor
  · rintro ⟨a,b,hab,rfl,hbefore,hbehind⟩
    rw [List.append_assoc] at hab
    obtain ⟨a',rfl,ht⟩ | ⟨z,hz,rfl⟩ := through_or_inside hab
    · right
      refine ⟨bytes a',⟨a',b,by rw [ht, List.append_assoc],rfl,?_,hbehind⟩,bytes_append x a'⟩
      intro c hc
      exact hbefore c (by simp [List.getLast?_append, Option.mem_def.mp hc])
    · rw [List.append_assoc, List.append_cancel_left_eq] at hab
      obtain ⟨b',rfl,rfl⟩ | ⟨y,hy,rfl⟩ := through_or_inside hab.symm
      · left
        refine ⟨a,b',by simp,rfl,hbefore,?_⟩
        intro c hc
        exact hbehind c (by simp [List.head?_append, Option.mem_def.mp hc])
      · -- the word would have its one part before the cut and its other part behind it
        rw [List.append_assoc, List.append_cancel_left_eq] at hab
        have hlast : z.getLast hz ∈ (a ++ z).getLast? := by
          rw [List.getLast?_append_of_ne_nil _ hz]
          exact List.getLast?_eq_some_getLast hz
        have hhead : y.head hy ∈ t.head? := by
          rw [hab, List.head?_append_of_ne_nil _ hy]
          exact List.head?_eq_some_head hy
        have hz' := hw.isWordChar (z.getLast hz) (by simp)
        have hy' := hw.isWordChar (y.head hy) (by simp)
        exact absurd ⟨hz',hy'⟩ (hxt _ hlast _ hhead)
  · rintro (h | ⟨k,h,rfl⟩)
    · exact h.append hw hxt
    · exact h.behind hw hxt

/-- In a run of word characters only the run itself stands as a word. -/
lemma wordAt_isWord_iff (hx : IsWord x) : WordAt x w o ↔ w = x ∧ o = 0 := by
  constructor
  · rintro ⟨a,b,rfl,rfl,hbefore,hbehind⟩
    obtain rfl : a = [] := by
      by_contra ha
      exact hbefore _ (List.getLast?_eq_some_getLast ha) (hx.isWordChar _ (by simp))
    obtain rfl : b = [] := by
      by_contra hb
      exact hbehind _ (List.head?_eq_some_head hb) (hx.isWordChar _ (by simp))
    simp
  · rintro ⟨rfl,rfl⟩
    exact ⟨[],[],by simp,rfl,by simp,by simp⟩

lemma not_wordAt_singleton {c : Char} (hw : IsWord w) (hc : ¬ isWordChar c) : ¬ WordAt [c] w o := by
  rintro ⟨a,b,hab,-⟩
  obtain ⟨d,hd⟩ := List.exists_mem_of_ne_nil w hw.ne_nil
  have hmem : d ∈ [c] := by simp [hab, hd]
  rw [List.mem_singleton] at hmem
  exact hc (hmem ▸ hw.isWordChar d hd)

end Cut

section Scan

lemma isWord_cons_takeWhile {c : Char} (hc : isWordChar c) (rest : List Char) :
    IsWord (c :: rest.takeWhile isWordChar) := by
  refine ⟨by simp,?_⟩
  intro d hd
  obtain rfl | hd := List.mem_cons.mp hd
  · exact hc
  · exact List.mem_takeWhile_imp hd

/-- The words that the scan cuts out are those that stand in the text, at their columns. -/
theorem mem_wordsFrom_iff (column : ℕ) (t : List Char) (o : ℕ) (w : List Char) :
    (o, w) ∈ wordsFrom column t ↔ IsWord w ∧ ∃ k, WordAt t w k ∧ o = column + k := by
  fun_induction wordsFrom column t with
  | case1 column =>
    simp only [List.not_mem_nil, false_iff]
    rintro ⟨hw,k,⟨a,b,hab,-⟩,-⟩
    simp [hw.ne_nil] at hab
  | case2 column c rest hc word ih =>
    have hword : IsWord word := isWord_cons_takeWhile hc rest
    have hapart : Apart word (rest.dropWhile isWordChar) := by
      rintro - - d hd ⟨-,hd'⟩
      have hnot := List.head?_dropWhile_not isWordChar rest
      rw [Option.mem_def.mp hd] at hnot
      simp [hd'] at hnot
    have htext : c :: rest = word ++ rest.dropWhile isWordChar := by simp [word]
    rw [List.mem_cons, ih, htext]
    constructor
    · rintro (he | ⟨hw,k,hk,rfl⟩)
      · obtain ⟨rfl,rfl⟩ := Prod.mk.inj he
        refine ⟨hword,0,(wordAt_append_iff hword hapart).mpr (.inl ?_),rfl⟩
        exact (wordAt_isWord_iff hword).mpr ⟨rfl,rfl⟩
      · exact ⟨hw,bytes word + k,hk.behind hw hapart,by omega⟩
    · rintro ⟨hw,k,hk,rfl⟩
      obtain hfirst | ⟨j,hj,rfl⟩ := (wordAt_append_iff hw hapart).mp hk
      · obtain ⟨rfl,rfl⟩ := (wordAt_isWord_iff hword).mp hfirst
        exact .inl rfl
      · exact .inr ⟨hw,j,hj,by omega⟩
  | case3 column c rest hc ih =>
    have hapart : Apart [c] rest := by
      rintro d hd - - ⟨hd',-⟩
      obtain rfl := Option.some.inj hd
      exact hc hd'
    have hbytes : bytes [c] = c.utf8Size := by simp
    rw [ih]
    refine and_congr_right fun hw => ?_
    constructor
    · rintro ⟨k,hk,rfl⟩
      exact ⟨bytes [c] + k,hk.behind hw hapart,by omega⟩
    · rintro ⟨k,hk,rfl⟩
      obtain hfirst | ⟨j,hj,rfl⟩ := (wordAt_append_iff (x := [c]) hw hapart).mp hk
      · exact absurd hfirst (not_wordAt_singleton hw hc)
      · exact ⟨j,hj,by omega⟩

/-- The scan goes from left to right. -/
lemma pairwise_wordsFrom (column : ℕ) (t : List Char) :
    (wordsFrom column t).Pairwise fun v w => v.1 < w.1 := by
  fun_induction wordsFrom column t with
  | case1 => exact .nil
  | case2 column c rest hc word ih =>
    refine .cons ?_ ih
    rintro ⟨o,w⟩ hw
    obtain ⟨-,k,-,rfl⟩ := (mem_wordsFrom_iff _ _ o w).mp hw
    have hpos : 0 < bytes word := bytes_pos (by simp [word])
    change column < column + bytes word + k
    omega
  | case3 column c rest hc ih => exact ih

/-- Of words in order, the first that is the one in question gives its column. -/
lemma isLeast_columnAmong {word : List Char} {ws : List (ℕ × List Char)} (column : ℕ)
    (hws : ws.Pairwise fun v w => v.1 < w.1) (h : ∃ o, (o, word) ∈ ws) :
    IsLeast {o | (o, word) ∈ ws} (columnAmong word column ws) := by
  induction ws generalizing column with
  | nil => simp at h
  | cons v ws ih =>
    obtain ⟨first,w⟩ := v
    obtain ⟨hfirst,hws⟩ := List.pairwise_cons.mp hws
    rw [columnAmong]
    split_ifs with hw
    · subst hw
      refine ⟨List.mem_cons_self,?_⟩
      intro o ho
      obtain he | ho := List.mem_cons.mp ho
      · exact Nat.le_of_eq (Prod.mk.inj he).1.symm
      · exact Nat.le_of_lt (hfirst _ ho)
    · have hmem : ∀ o, (o, word) ∈ (first, w) :: ws ↔ (o, word) ∈ ws := by
        simp [Ne.symm hw]
      simp only [hmem] at h ⊢
      exact ih first hws h

end Scan

/-- Words are found as wholes. A word is in a line exactly if it stands somewhere in it, with no letter,
digit or underscore right before or behind it, and its column is then the first such place. -/
theorem wordColumn_isLeast (line : List Char) (word : String) (hne : word.toList ≠ [])
    (hword : ∀ c ∈ word.toList, isWordChar c) :
    (hasWord line word = true ↔ ∃ o, WordAt line word.toList o) ∧
      (hasWord line word = true → IsLeast {o | WordAt line word.toList o} (wordColumn line word)) := by
  have hmem : ∀ o, (o, word.toList) ∈ wordsFrom 0 line ↔ WordAt line word.toList o := by
    intro o
    rw [mem_wordsFrom_iff]
    simp [IsWord.mk hne hword]
  have hhas : hasWord line word = true ↔ ∃ o, WordAt line word.toList o := by
    simp only [← hmem, hasWord, words, List.contains_iff_mem, List.mem_map, Prod.exists,
      exists_eq_right]
  refine ⟨hhas,?_⟩
  intro h
  simp only [← hmem] at hhas ⊢
  exact isLeast_columnAmong 0 (pairwise_wordsFrom 0 line) (hhas.mp h)

/-- A word as part of others, then twice on its own. -/
theorem wordColumn_isLeast_twice :
    "fun".toList ≠ [] ∧ (∀ c ∈ "fun".toList, isWordChar c) ∧
      hasWord "fund _fun fun(fun)".toList "fun" = true ∧
      IsLeast {o | WordAt "fund _fun fun(fun)".toList "fun".toList o} 10 := by
  have hne : "fun".toList ≠ [] := by decide
  have hword : ∀ c ∈ "fun".toList, isWordChar c := List.all_eq_true.mp (by decide +kernel)
  have hhas : hasWord "fund _fun fun(fun)".toList "fun" = true := by decide +kernel
  have hcolumn : wordColumn "fund _fun fun(fun)".toList "fun" = 10 := by decide +kernel
  have hleast := (wordColumn_isLeast "fund _fun fun(fun)".toList "fun" hne hword).2 hhas
  rw [hcolumn] at hleast
  exact ⟨hne,hword,hhas,hleast⟩

end EditAssist.Text
