import EditAssist.Analysis.Brackets
import EditAssist.Analysis.Unclosed
import EditAssist.Proofs.Text.Boundary

/-! Where the whole-text analyses find what they report. Characters of code, faults of brackets,
unclosed strings and open comments all come with the number of bytes that stand before them. -/
namespace EditAssist.Analysis
open Text

lemma exists_parts_of_mem_placed {start o : ℕ} {t : List Char} {c : Char}
    (h : (o, c) ∈ placed start t) : ∃ a b, t = a ++ c :: b ∧ o = start + bytes a := by
  induction t generalizing start with
  | nil => simp [placed] at h
  | cons d t ih =>
    rw [placed, List.mem_cons] at h
    rcases h with h | h
    · obtain ⟨rfl,rfl⟩ := Prod.mk.inj h
      exact ⟨[],t,rfl,rfl⟩
    · obtain ⟨a,b,rfl,rfl⟩ := ih h
      exact ⟨d :: a,b,rfl,by rw [bytes_cons, Nat.add_assoc]⟩

/-- A character that counts as code stands in the text of the tokens at its offset. -/
theorem exists_parts_of_mem_codeFrom {start o : ℕ} {ts : List Token} {c : Char}
    (h : (o, c) ∈ codeFrom start ts) :
    ∃ a b, ts.flatMap (·.text) = a ++ c :: b ∧ o = start + bytes a := by
  induction ts generalizing start with
  | nil => simp [codeFrom] at h
  | cons t ts ih =>
    have hrest : (o, c) ∈ codeFrom (start + bytes t.text) ts →
        ∃ a b, (t :: ts).flatMap (·.text) = a ++ c :: b ∧ o = start + bytes a := by
      intro h
      obtain ⟨a,b,hab,rfl⟩ := ih h
      refine ⟨t.text ++ a,b,?_,by rw [bytes_append, Nat.add_assoc]⟩
      rw [List.flatMap_cons, hab, List.append_assoc]
    simp only [codeFrom] at h
    split_ifs at h
    · rcases List.mem_append.mp h with h | h
      · obtain ⟨a,b,hab,rfl⟩ := exists_parts_of_mem_placed h
        exact ⟨a,b ++ ts.flatMap (·.text),by rw [List.flatMap_cons, hab]; simp,rfl⟩
      · exact hrest h
    · exact hrest h

/-- A fault is found at the place of a bracket. -/
theorem exists_bracket_of_mem_matchBrackets {o : ℕ} {f : BracketFault}
    (opened bs : List (ℕ × Char)) (h : (o, f) ∈ matchBrackets opened bs) :
    ∃ c, (o, c) ∈ opened ∨ (o, c) ∈ bs := by
  fun_induction matchBrackets opened bs with
  | case1 opened =>
    obtain ⟨⟨o',c⟩,hm,he⟩ := List.mem_map.mp h
    obtain ⟨rfl,-⟩ := Prod.mk.inj he
    exact ⟨c,.inl (List.mem_reverse.mp hm)⟩
  | case2 opened o' c' rest ho ih =>
    obtain ⟨c,hm⟩ := ih h
    refine ⟨c,?_⟩
    simp only [List.mem_cons] at hm ⊢
    tauto
  | case3 o' c' rest ho hc ih =>
    rcases List.mem_cons.mp h with h | h
    · obtain ⟨rfl,-⟩ := Prod.mk.inj h
      exact ⟨c',.inr List.mem_cons_self⟩
    · obtain ⟨c,hm⟩ := ih h
      exact ⟨c,hm.imp id (List.mem_cons_of_mem _)⟩
  | case4 o' rest o'' opener opened ho hc ih =>
    obtain ⟨c,hm⟩ := ih h
    exact ⟨c,hm.imp (List.mem_cons_of_mem _) (List.mem_cons_of_mem _)⟩
  | case5 o' c' rest o'' opener opened ho hc hne ih =>
    rcases List.mem_cons.mp h with h | h
    · obtain ⟨rfl,-⟩ := Prod.mk.inj h
      exact ⟨c',.inr List.mem_cons_self⟩
    · obtain ⟨c,hm⟩ := ih h
      exact ⟨c,hm.imp (List.mem_cons_of_mem _) (List.mem_cons_of_mem _)⟩
  | case6 opened o' c' rest ho hc ih =>
    obtain ⟨c,hm⟩ := ih h
    exact ⟨c,hm.imp id (List.mem_cons_of_mem _)⟩

lemma ne_of_isBracket {c : Char} (h : (isOpener c || isCloser c) = true) : c ≠ '\n' ∧ c ≠ '\r' := by
  constructor
  all_goals
    rintro rfl
    revert h
    decide

/-- An unclosed string starts behind the tokens before it. -/
lemma exists_token_of_mem_openStringsFrom {start o : ℕ} {ts : List Token}
    (h : o ∈ openStringsFrom start ts) :
    ∃ before t after, ts = before ++ t :: after ∧ t.isOpenString = true ∧
      o = start + bytes (before.flatMap (·.text)) := by
  induction ts generalizing start with
  | nil => simp [openStringsFrom] at h
  | cons t ts ih =>
    have hrest : o ∈ openStringsFrom (start + bytes t.text) ts →
        ∃ before u after, t :: ts = before ++ u :: after ∧ u.isOpenString = true ∧
          o = start + bytes (before.flatMap (·.text)) := by
      intro h
      obtain ⟨before,u,after,rfl,hu,rfl⟩ := ih h
      exact ⟨t :: before,u,after,rfl,hu,by rw [List.flatMap_cons, bytes_append, Nat.add_assoc]⟩
    simp only [openStringsFrom] at h
    split_ifs at h with ho
    · rcases List.mem_cons.mp h with rfl | h
      · exact ⟨[],t,ts,rfl,ho,rfl⟩
      · exact hrest h
    · exact hrest h

lemma category_of_isOpenString {t : Token} (h : t.isOpenString = true) : t.category = .string := by
  unfold Token.isOpenString at h
  split at h
  · assumption
  · contradiction

/-- The text behind the first occurrence of a part, and its offset. -/
lemma exists_parts_of_behind {part : List Char} {offset o : ℕ} {t rest : List Char}
    (h : behind part offset t = some (o, rest)) :
    ∃ a, t = a ++ part ++ rest ∧ o = offset + bytes a + bytes part := by
  induction t generalizing offset with
  | nil =>
    simp only [behind] at h
    split_ifs at h with hp
    obtain ⟨rfl,rfl⟩ := Prod.mk.inj (Option.some.inj h)
    exact ⟨[],by simpa using hp,by simp [List.isEmpty_iff.mp hp]⟩
  | cons c t ih =>
    rw [behind] at h
    split_ifs at h with hp
    · obtain ⟨rfl,rfl⟩ := Prod.mk.inj (Option.some.inj h)
      obtain ⟨r,hr⟩ := List.isPrefixOf_iff_prefix.mp hp
      exact ⟨[],by simp [← hr],by simp⟩
    · obtain ⟨a,rfl,rfl⟩ := ih h
      exact ⟨c :: a,rfl,by rw [bytes_cons, Nat.add_assoc offset]⟩

/-- A comment that opens behind the beginning `s` of a line opens at its column in the line. -/
lemma exists_parts_of_opensComment {o : ℕ} {s t : List Char}
    (h : opensComment (bytes s) t = some o) : ∃ a b, s ++ t = a ++ '/' :: b ∧ o = bytes a := by
  unfold opensComment at h
  split at h
  · contradiction
  · rename_i after rest hb
    split_ifs at h
    obtain ⟨a,rfl,rfl⟩ := exists_parts_of_behind hb
    refine ⟨s ++ a,'*' :: rest,by simp,?_⟩
    have htwo : bytes ['/', '*'] = 2 := rfl
    have ho := Option.some.inj h
    rw [bytes_append]
    omega

/-- The comment that is open behind some lines was open before them, or opens in one of them. -/
theorem exists_line_of_openCommentFrom (number : ℕ) (opened : Option (ℕ × ℕ))
    (ps : List (List Char)) :
    ∀ p ∈ openCommentFrom number opened ps, opened = some p ∨
      ∃ i a b, p = (number + i, bytes a) ∧ ps[i]? = some (a ++ '/' :: b) := by
  have hline : ∀ {number : ℕ} {s t : List Char} {ts : List (List Char)} {p : ℕ × ℕ},
      ((opensComment (bytes s) t).map (number, ·) = some p ∨
        ∃ i a b, p = (number + 1 + i, bytes a) ∧ ts[i]? = some (a ++ '/' :: b)) →
      ∃ i a b, p = (number + i, bytes a) ∧ ((s ++ t) :: ts)[i]? = some (a ++ '/' :: b) := by
    rintro number s t ts p (h | ⟨i,a,b,rfl,hi⟩)
    · obtain ⟨o,ho,rfl⟩ := Option.map_eq_some_iff.mp h
      obtain ⟨a,b,hab,rfl⟩ := exists_parts_of_opensComment ho
      exact ⟨0,a,b,rfl,by simp [hab]⟩
    · exact ⟨i + 1,a,b,by rw [Nat.add_right_comm, Nat.add_assoc],hi⟩
  fun_induction openCommentFrom number opened ps with
  | case1 number opened =>
    intro p hp
    exact .inl hp
  | case2 number t ts ih =>
    intro p hp
    exact .inr (hline (s := []) (ih p hp))
  | case3 number place t ts hb ih =>
    intro p hp
    rcases ih p hp with h | ⟨i,a,b,rfl,hi⟩
    · exact .inl h
    · exact .inr ⟨i + 1,a,b,by rw [Nat.add_right_comm, Nat.add_assoc],hi⟩
  | case4 number place t ts column rest hb ih =>
    intro p hp
    obtain ⟨a,rfl,rfl⟩ := exists_parts_of_behind hb
    rw [Nat.zero_add, ← bytes_append] at ih hp
    exact .inr (hline (ih p hp))

end EditAssist.Analysis
