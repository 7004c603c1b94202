import EditAssist.Token.Lexer
import Mathlib.Data.List.Basic

/-! Shapes of tokens: what a shape says of the text it was found at, and how far it may reach. -/
namespace EditAssist.Token
open Text Unicode

lemma closeReach_le_length (t : List Char) : closeReach t ≤ t.length := by
  fun_induction closeReach t with
  | case1 => simp
  | case2 => simp
  | case3 c t _ ih =>
    rw [List.length_cons]
    omega

lemma quoteReach?_le_length {quote : Char} {escaped : Bool} {t : List Char} {n : ℕ}
    (h : quoteReach? quote escaped t = some n) : n ≤ t.length := by
  fun_induction quoteReach? quote escaped t generalizing n with
  | case1 => simp at h
  | case2 c t ih =>
    obtain ⟨m,hm,rfl⟩ := Option.map_eq_some_iff.mp h
    exact Nat.succ_le_succ (ih hm)
  | case3 t ih =>
    obtain ⟨m,hm,rfl⟩ := Option.map_eq_some_iff.mp h
    exact Nat.succ_le_succ (ih hm)
  | case4 t hq =>
    cases h
    simp
  | case5 c t hc hq ih =>
    obtain ⟨m,hm,rfl⟩ := Option.map_eq_some_iff.mp h
    exact Nat.succ_le_succ (ih hm)

lemma prefix_of_shape_eq_blockComment {lang : Language} {c : Char} {t : List Char}
    (h : shape lang c t = .blockComment) : ['/', '*'] <+: c :: t := by
  unfold shape at h
  split_ifs at h with h₁ h₂
  simp only [Bool.and_eq_true] at h₂
  exact List.isPrefixOf_iff_prefix.mp h₂.2

/-- The piece of a block comment, and what follows it. -/
lemma exists_cut_of_blockComment {lang : Language} {c : Char} {t : List Char}
    (h : shape lang c t = .blockComment) :
    ∃ u, c = '/' ∧ t = '*' :: u ∧
      c :: t.take (reach c t (shape lang c t)) = '/' :: '*' :: u.take (closeReach u) ∧
      t.drop (reach c t (shape lang c t)) = u.drop (closeReach u) := by
  obtain ⟨u,hu⟩ := prefix_of_shape_eq_blockComment h
  obtain ⟨rfl,rfl⟩ : c = '/' ∧ t = '*' :: u := by simpa [eq_comm] using hu
  have hreach : reach '/' ('*' :: u) .blockComment = closeReach u + 1 := rfl
  rw [h, hreach, List.take_succ_cons, List.drop_succ_cons]
  exact ⟨u,rfl,rfl,rfl,rfl⟩

/-- No shape reaches beyond the text. -/
theorem reach_le_length (lang : Language) (c : Char) (t : List Char) :
    reach c t (shape lang c t) ≤ t.length := by
  cases hs : shape lang c t with
  | lineComment => exact (List.takeWhile_sublist _).length_le
  | blockComment =>
    obtain ⟨r,hr⟩ := prefix_of_shape_eq_blockComment hs
    obtain ⟨-,rfl⟩ := List.cons.inj hr
    exact Nat.succ_le_succ (closeReach_le_length r)
  | quoted =>
    simp only [reach]
    cases hq : quoteReach? c false t with
    | none => simp
    | some n => exact quoteReach?_le_length hq
  | number => exact (List.takeWhile_sublist _).length_le
  | word => exact (List.takeWhile_sublist _).length_le
  | operator => exact Nat.zero_le _
  | other => exact Nat.zero_le _

/-- The characters that a token goes over, where one test decides on them. -/
def Shape.scanned : Shape → Option (Char → Bool)
  | .lineComment => some (· != '\n')
  | .number => some isNumberChar
  | .word => some isWordChar
  | _ => none

/-- No line comment starts at the end of a line. -/
lemma ne_newline_of_isPrefixOf {lang : Language} {c : Char} {t : List Char}
    (h : lang.lineComment.toList.isPrefixOf (c :: t) = true) : c ≠ '\n' := by
  rintro rfl
  cases lang <;> simp [Language.lineComment] at h

/-- A token passes the test from its first character on. -/
lemma scanned_of_shape {lang : Language} {c : Char} {t : List Char} {p : Char → Bool}
    (hp : (shape lang c t).scanned = some p) : p c = true := by
  unfold shape at hp
  split_ifs at hp with hline hblock hquote hdigit hletter hoperator
  · obtain rfl := Option.some.inj hp
    exact bne_iff_ne.mpr (ne_newline_of_isPrefixOf hline)
  all_goals simp only [Shape.scanned, reduceCtorEq] at hp
  · obtain rfl := Option.some.inj hp
    simp [isNumberChar, hdigit]
  · obtain rfl := Option.some.inj hp
    simp only [Bool.or_eq_true, decide_eq_true_eq] at hletter
    simp only [isWordChar, isAlphanumeric, Bool.or_eq_true, decide_eq_true_eq]
    exact hletter.imp_left .inl

/-- A scan from the first character of a token on ends where the token does. -/
theorem length_takeWhile_of_scanned {lang : Language} {c : Char} {t : List Char} {p : Char → Bool}
    (hp : (shape lang c t).scanned = some p) :
    ((c :: t).takeWhile p).length = reach c t (shape lang c t) + 1 := by
  rw [List.takeWhile_cons_of_pos (scanned_of_shape hp), List.length_cons]
  cases hs : shape lang c t
  all_goals simp only [hs, Shape.scanned, reduceCtorEq, Option.some.injEq] at hp
  all_goals rw [← hp, reach]

lemma quote_of_shape_eq_quoted {lang : Language} {c : Char} {t : List Char}
    (h : shape lang c t = .quoted) : c = '"' ∨ c = '\'' := by
  unfold shape at h
  split_ifs at h with h₁ h₂ h₃
  simpa using h₃

lemma shape_eq_quoted_of_categoryOf {keywords : List String} {word rest : List Char} {s : Shape}
    (h : categoryOf keywords word rest s = .string) : s = .quoted := by
  cases s with
  | quoted => rfl
  | word =>
    simp only [categoryOf, wordCategory] at h
    split_ifs at h
  | _ => simp [categoryOf] at h

/-- A word is no comment and no string. -/
lemma wordCategory_ne (keywords : List String) (word rest : List Char) :
    wordCategory keywords word rest ≠ .comment ∧ wordCategory keywords word rest ≠ .string := by
  unfold wordCategory
  split_ifs <;> decide

/-- A string starts with a quote. -/
theorem exists_quote_of_mem_tokenize {lang : Language} {keywords : List String} {text : List Char}
    {t : Token} (h : t ∈ tokenize lang keywords text) (hs : t.category = .string) :
    ∃ q body, t.text = q :: body ∧ (q = '"' ∨ q = '\'') := by
  fun_induction tokenize lang keywords text with
  | case1 => simp at h
  | case2 c r sh n word rest ih =>
    rcases List.mem_cons.mp h with rfl | h
    · exact ⟨c,_,rfl,quote_of_shape_eq_quoted (shape_eq_quoted_of_categoryOf hs)⟩
    · exact ih h

/-- A token that reaches through `w` leaves the rest. -/
lemma tokenize_of_reach {lang : Language} (keywords : List String) {c : Char} {w r : List Char}
    (h : reach c (w ++ r) (shape lang c (w ++ r)) = w.length) :
    tokenize lang keywords (c :: (w ++ r)) =
      ⟨categoryOf keywords (c :: w) r (shape lang c (w ++ r)), c :: w⟩ :: tokenize lang keywords r := by
  rw [tokenize]
  simp [h]

/-- A newline is a token of its own. -/
lemma tokenize_newline (lang : Language) (keywords : List String) (t : List Char) :
    tokenize lang keywords ('\n' :: t) = ⟨.normal, ['\n']⟩ :: tokenize lang keywords t := by
  have hshape : shape lang '\n' t = .other := by cases lang <;> rfl
  rw [tokenize]
  simp [hshape, reach, categoryOf]

end EditAssist.Token
