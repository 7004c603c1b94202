import EditAssist.Proofs.Text.Endings
import EditAssist.Proofs.Token.Segmentation

/-! Tokens under the two line endings. A carriage return before a newline is a token of its own, or
the end of a comment that runs to the end of its line, or one more character of a comment or string
that goes on behind the line. Every other token stays as it is. -/
namespace EditAssist.Token
open Text Unicode

section Reach
variable {p : Char → Bool} {lang : Language} {c : Char} {t : List Char}

lemma head?_withReturns {d : Char} (hn : d ≠ '\n') (hr : d ≠ '\r') (t : List Char) :
    (withReturns t).head? = some d ↔ t.head? = some d := by
  cases t with
  | nil => rfl
  | cons c t =>
    by_cases hc : c = '\n'
    · subst hc
      simp [hn.symm, hr.symm]
    · rw [withReturns_cons hc]
      rfl

/-- The shape of a token is decided before a line ends. -/
lemma shape_withReturns (lang : Language) (c : Char) (t : List Char) :
    shape lang c (withReturns t) = shape lang c t := by
  have htwo : ∀ d, d ≠ '\n' → d ≠ '\r' →
      ['/', d].isPrefixOf (c :: withReturns t) = ['/', d].isPrefixOf (c :: t) := by
    intro d hn hr
    have hhead := head?_withReturns hn hr t
    rw [Bool.eq_iff_iff, List.isPrefixOf_iff_prefix, List.isPrefixOf_iff_prefix,
      List.cons_prefix_cons, List.cons_prefix_cons, List.singleton_prefix_iff_head?_eq_some,
      List.singleton_prefix_iff_head?_eq_some, hhead]
  have hline : lang.lineComment.toList.isPrefixOf (c :: withReturns t) =
      lang.lineComment.toList.isPrefixOf (c :: t) := by
    cases lang with
    | python => simp [Language.lineComment, List.isPrefixOf]
    | _ => exact htwo '/' (by decide) (by decide)
  rw [shape, shape, hline, htwo '*' (by decide) (by decide)]

/-- A run of characters that ends with its line. -/
lemma takeWhile_withReturns (hn : p '\n' = false) (hr : p '\r' = false) (t : List Char) :
    (withReturns t).takeWhile p = t.takeWhile p := by
  induction t with
  | nil => rfl
  | cons c t ih =>
    by_cases hc : c = '\n'
    · subst hc
      simp [hn, hr]
    · rw [withReturns_cons hc, List.takeWhile_cons, List.takeWhile_cons, ih]

lemma length_takeWhile_withReturns (hn : p '\n' = false) (hr : p '\r' = false) (t : List Char) :
    ((withReturns t).takeWhile p).length =
      (withReturns (t.take (t.takeWhile p).length)).length := by
  have htake : t.take (t.takeWhile p).length = t.takeWhile p :=
    (List.prefix_iff_eq_take.mp (List.takeWhile_prefix p)).symm
  have hnot : '\n' ∉ t.takeWhile p := by
    intro hm
    rw [List.mem_takeWhile_imp hm] at hn
    contradiction
  rw [takeWhile_withReturns hn hr, htake, withReturns_of_not_mem hnot]

lemma closeReach_cons_of_ne (h : c = '*' → t.head? ≠ some '/') :
    closeReach (c :: t) = closeReach t + 1 := by
  rw [closeReach]
  rintro u rfl rfl
  exact h rfl rfl

/-- No line ending lies between the two characters that close a comment. -/
lemma closeReach_withReturns (t : List Char) :
    closeReach (withReturns t) = (withReturns (t.take (closeReach t))).length := by
  fun_induction closeReach t with
  | case1 => rfl
  | case2 t =>
    rw [withReturns_cons (by decide), withReturns_cons (by decide), closeReach]
    rfl
  | case3 c t hopen ih =>
    by_cases hc : c = '\n'
    · subst hc
      rw [List.take_succ_cons, withReturns_newline, withReturns_newline,
        closeReach_cons_of_ne (by simp), closeReach_cons_of_ne (by simp), ih]
      rfl
    · have hhead : c = '*' → (withReturns t).head? ≠ some '/' := by
        rintro rfl h
        rw [head?_withReturns (by decide) (by decide)] at h
        obtain ⟨u,hu⟩ := List.head?_eq_some_iff.mp h
        exact hopen u rfl hu
      rw [List.take_succ_cons, withReturns_cons hc, withReturns_cons hc, closeReach_cons_of_ne hhead,
        ih]
      rfl

/-- A backslash before a line ending escapes nothing that could close a string. -/
lemma quoteReach?_withReturns {q : Char} (hn : q ≠ '\n') (hr : q ≠ '\r') (escaped : Bool)
    (t : List Char) :
    quoteReach? q escaped (withReturns t) =
      (quoteReach? q escaped t).map fun n => (withReturns (t.take n)).length := by
  have hnewline : ∀ t, quoteReach? q false ('\n' :: t) = (quoteReach? q false t).map (· + 1) := by
    intro t
    rw [quoteReach?, if_neg (by decide), if_neg hn.symm]
  fun_induction quoteReach? q escaped t with
  | case1 => rfl
  | case2 c t ih =>
    by_cases hc : c = '\n'
    · subst hc
      rw [withReturns_newline, quoteReach?, hnewline, ih]
      cases quoteReach? q false t <;> simp
    · rw [withReturns_cons hc, quoteReach?, ih]
      cases quoteReach? q false t <;> simp [withReturns_cons hc]
  | case3 t ih =>
    rw [withReturns_cons (by decide), quoteReach?, if_pos rfl, ih]
    cases quoteReach? q true t <;> simp [withReturns_cons]
  | case4 t hne =>
    rw [withReturns_cons hn, quoteReach?, if_neg hne, if_pos rfl]
    simp [withReturns_cons hn]
  | case5 c t hne hcq ih =>
    by_cases hc : c = '\n'
    · subst hc
      rw [withReturns_newline, quoteReach?, if_neg (by decide), if_neg hr.symm, hnewline, ih]
      cases quoteReach? q false t <;> simp
    · rw [withReturns_cons hc, quoteReach?, if_neg hne, if_neg hcq, ih]
      cases quoteReach? q false t <;> simp [withReturns_cons hc]

/-- All but the comments that end with their line reach as far as before. -/
theorem reach_withReturns (hn : c ≠ '\n') (hr : c ≠ '\r') {s : Shape} (hs : s ≠ .lineComment)
    (h : s = .blockComment → t.head? = some '*') :
    reach c (withReturns t) s = (withReturns (t.take (reach c t s))).length := by
  cases s with
  | lineComment => contradiction
  | blockComment =>
    obtain ⟨u,rfl⟩ := List.head?_eq_some_iff.mp (h rfl)
    rw [withReturns_cons (by decide), reach, reach, List.drop_one, List.drop_one, List.tail_cons,
      List.tail_cons, List.take_succ_cons, withReturns_cons (by decide), closeReach_withReturns]
    rfl
  | quoted =>
    rw [reach, reach, quoteReach?_withReturns hn hr]
    cases quoteReach? c false t <;> simp
  | number => exact length_takeWhile_withReturns (by decide) (by decide) t
  | word => exact length_takeWhile_withReturns (by decide) (by decide) t
  | operator => rfl
  | other => rfl

lemma categoryOf_withReturns (keywords : List String) {w r : List Char} {s : Shape}
    (hw : s = .word → '\n' ∉ w) :
    categoryOf keywords (withReturns w) (withReturns r) s = categoryOf keywords w r s := by
  cases s with
  | word =>
    have hhead := head?_withReturns (d := '(') (by decide) (by decide) r
    simp only [categoryOf, wordCategory, withReturns_of_not_mem (hw rfl), hhead]
  | _ => rfl

end Reach

/-- The tokens of a text, and those of the text with carriage returns. -/
inductive Returned : List Token → List Token → Prop
  | nil : Returned [] []
  | newline {ts ts'} : Returned ts ts' →
      Returned (⟨.normal, ['\n']⟩ :: ts) (⟨.normal, ['\r']⟩ :: ⟨.normal, ['\n']⟩ :: ts')
  | comment {w ts ts'} : w ≠ [] → '\n' ∉ w → Returned ts ts' →
      Returned (⟨.comment, w⟩ :: ⟨.normal, ['\n']⟩ :: ts)
        (⟨.comment, w ++ ['\r']⟩ :: ⟨.normal, ['\n']⟩ :: ts')
  | same {k c w ts ts'} : c ≠ '\n' → c ≠ '\r' → Returned ts ts' →
      Returned (⟨k, c :: w⟩ :: ts) (⟨k, c :: withReturns w⟩ :: ts')

lemma Returned.of_newline {ts us : List Token} (h : Returned (⟨.normal, ['\n']⟩ :: ts) us) :
    ∃ ts', us = ⟨.normal, ['\r']⟩ :: ⟨.normal, ['\n']⟩ :: ts' ∧ Returned ts ts' := by
  cases h with
  | newline h => exact ⟨_,rfl,h⟩
  | same hc => contradiction

lemma tokenize_return (lang : Language) (keywords : List String) (t : List Char) :
    tokenize lang keywords ('\r' :: t) = ⟨.normal, ['\r']⟩ :: tokenize lang keywords t := by
  have hshape : shape lang '\r' t = .other := by cases lang <;> rfl
  have htokens := @tokenize_of_reach lang keywords '\r' [] t
  rw [List.nil_append, hshape] at htokens
  exact htokens rfl

/-- A comment that runs to the end of its line. -/
lemma tokenize_of_lineComment {lang : Language} (keywords : List String) {c : Char} {w r : List Char}
    (hs : shape lang c (w ++ r) = .lineComment) (hw : '\n' ∉ w)
    (hr : r = [] ∨ r.head? = some '\n') :
    tokenize lang keywords (c :: (w ++ r)) = ⟨.comment, c :: w⟩ :: tokenize lang keywords r := by
  have hreach : reach c (w ++ r) .lineComment = w.length := by
    have hall : ∀ d ∈ w, (d != '\n') = true := by
      intro d hd
      rw [bne_iff_ne]
      rintro rfl
      exact hw hd
    rw [reach, List.takeWhile_append_of_pos hall]
    rcases hr with rfl | hr
    · simp
    · obtain ⟨u,rfl⟩ := List.head?_eq_some_iff.mp hr
      simp
  rw [tokenize_of_reach keywords (by rw [hs, hreach]), hs]
  rfl

/-- A comment that runs to the end of its line takes the carriage return there. -/
lemma Returned.lineComment {lang : Language} {keywords : List String} {c : Char} {w r : List Char}
    (hs : shape lang c (w ++ r) = .lineComment) (hn : c ≠ '\n') (hr : c ≠ '\r') (hw : '\n' ∉ w)
    (hrest : r = [] ∨ r.head? = some '\n')
    (ih : Returned (tokenize lang keywords r) (tokenize lang keywords (withReturns r))) :
    Returned (⟨.comment, c :: w⟩ :: tokenize lang keywords r)
      (tokenize lang keywords (c :: withReturns (w ++ r))) := by
  have hs' := shape_withReturns lang c (w ++ r)
  rw [hs, withReturns_append, withReturns_of_not_mem hw] at hs'
  rw [withReturns_append, withReturns_of_not_mem hw]
  rcases hrest with rfl | hrest
  · rw [tokenize_of_lineComment keywords hs' hw (.inl rfl)]
    have h := Returned.same (k := .comment) (w := w) hn hr ih
    rwa [withReturns_of_not_mem hw] at h
  · obtain ⟨u,rfl⟩ := List.head?_eq_some_iff.mp hrest
    rw [withReturns_newline, tokenize_return, tokenize_newline, tokenize_newline] at ih
    obtain ⟨ts,hts,h⟩ := ih.of_newline
    obtain rfl : tokenize lang keywords (withReturns u) = ts := by simpa using hts
    have hcut : w ++ withReturns ('\n' :: u) = (w ++ ['\r']) ++ '\n' :: withReturns u := by simp
    rw [hcut] at hs' ⊢
    rw [tokenize_of_lineComment keywords hs' (by simp [hw]) (.inr rfl), tokenize_newline,
      tokenize_newline]
    exact .comment (List.cons_ne_nil c w) (by simp [hw, hn.symm]) h

/-- Every other token but a newline gets the carriage returns of its own lines. -/
lemma Returned.other {lang : Language} {keywords : List String} {c : Char} {w r : List Char}
    {s : Shape} (hs : shape lang c (w ++ r) = s) (hline : s ≠ .lineComment) (hn : c ≠ '\n')
    (hr : c ≠ '\r') (hreach : reach c (w ++ r) s = w.length) (hw : s = .word → '\n' ∉ w)
    (ih : Returned (tokenize lang keywords r) (tokenize lang keywords (withReturns r))) :
    Returned (⟨categoryOf keywords (c :: w) r s, c :: w⟩ :: tokenize lang keywords r)
      (tokenize lang keywords (c :: withReturns (w ++ r))) := by
  have hblock : s = .blockComment → (w ++ r).head? = some '*' := by
    rintro rfl
    obtain ⟨u,hu⟩ := prefix_of_shape_eq_blockComment hs
    obtain ⟨-,hu⟩ := List.cons.inj hu
    rw [← hu]
    rfl
  have hs' := shape_withReturns lang c (w ++ r)
  have hreach' := reach_withReturns hn hr hline hblock
  rw [hreach, List.take_left] at hreach'
  rw [hs, withReturns_append] at hs'
  rw [withReturns_append] at hreach' ⊢
  have hcategory : categoryOf keywords (c :: withReturns w) (withReturns r) s =
      categoryOf keywords (c :: w) r s := by
    rw [← withReturns_cons hn]
    exact categoryOf_withReturns keywords fun h => by simp [hw h, hn.symm]
  rw [tokenize_of_reach keywords (by rw [hs', hreach']), hs', hcategory]
  exact .same hn hr ih

/-- The tokens of a text with carriage returns. -/
theorem returned_tokenize (lang : Language) (keywords : List String) {text : List Char}
    (h : '\r' ∉ text) :
    Returned (tokenize lang keywords text) (tokenize lang keywords (withReturns text)) := by
  fun_induction tokenize lang keywords text with
  | case1 => simpa using Returned.nil
  | case2 c t s n word rest ih =>
    have htext : t.take n ++ rest = t := List.take_append_drop n t
    rw [List.mem_cons, not_or] at h
    have hr : c ≠ '\r' := Ne.symm h.1
    have ih := ih fun hm => h.2 (List.mem_of_mem_drop hm)
    have hshape : shape lang c (t.take n ++ rest) = s := by rw [htext]
    have htakes : s.Takes word rest := takes_reach (leads_shape lang c t).1
    by_cases hc : c = '\n'
    · subst hc
      have hs : s = .other := by cases lang <;> rfl
      have hn : n = 0 := by rw [show n = reach '\n' t s from rfl, hs]; rfl
      have hrest : rest = t := by rw [show rest = t.drop n from rfl, hn, List.drop_zero]
      have hword : word = ['\n'] := by rw [show word = '\n' :: t.take n from rfl, hn, List.take_zero]
      rw [hrest] at ih
      rw [hs, hword, hrest, withReturns_newline, tokenize_return, tokenize_newline]
      exact .newline ih
    rw [withReturns_cons hc, ← htext]
    by_cases hs : s = .lineComment
    · rw [hs] at hshape htakes ⊢
      have hw : '\n' ∉ t.take n := fun hm => htakes.1 '\n' (List.mem_cons_of_mem c hm) rfl
      have hrest : rest = [] ∨ rest.head? = some '\n' := by
        cases hd : rest with
        | nil => exact .inl rfl
        | cons d r =>
          rw [hd] at htakes
          have hnewline : d = '\n' := by simpa using htakes.2 d rfl
          exact .inr (by rw [hnewline]; rfl)
      exact .lineComment hshape hc hr hw hrest ih
    · refine .other hshape hs hc hr ?_ ?_ ih
      · rw [htext, List.length_take_of_le (reach_le_length lang c t)]
      · intro hs hm
        rw [hs] at htakes
        have hnewline := htakes.1 '\n' (List.mem_cons_of_mem c hm)
        exact absurd hnewline (by decide)

end EditAssist.Token
