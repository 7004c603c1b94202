import EditAssist.Proofs.Token.Coverage
import EditAssist.Proofs.Token.Grammar

/-! The tokens of a text are those of the lexical grammar. At each place the scan takes the one piece
that the grammar allows there, so its spans are the only way to cut the whole text into spans that
obey the grammar. -/
namespace EditAssist.Token
open Text Unicode

lemma toList_lineComment (lang : Language) : lang.lineComment.toList = lineOpener lang := by
  cases lang <;> rfl

lemma hasBlockComments_iff (lang : Language) : lang.hasBlockComments = true ↔ lang ≠ .python := by
  cases lang <;> decide

/-- The scan finds the shape that takes precedence. -/
theorem leads_shape (lang : Language) (c : Char) (t : List Char) :
    (shape lang c t).Leads lang (c :: t) := by
  have hline : lang.lineComment.toList.isPrefixOf (c :: t) = true ↔
      Shape.lineComment.Opens lang (c :: t) := by
    rw [toList_lineComment, List.isPrefixOf_iff_prefix]
    rfl
  have hblock : (lang.hasBlockComments && ['/', '*'].isPrefixOf (c :: t)) = true ↔
      Shape.blockComment.Opens lang (c :: t) := by
    rw [Bool.and_eq_true, hasBlockComments_iff, List.isPrefixOf_iff_prefix]
    rfl
  have hquote : (c = '"' || c = '\'') = true ↔ Shape.quoted.Opens lang (c :: t) := by
    simp [Shape.Opens]
  have hnumber : c.isDigit = true ↔ Shape.number.Opens lang (c :: t) := by
    simp [Shape.Opens]
  have hword : (isAlphabetic c || c = '_') = true ↔ Shape.word.Opens lang (c :: t) := by
    simp [Shape.Opens]
  have hop : isOperator c = true ↔ Shape.operator.Opens lang (c :: t) := by
    simp [Shape.Opens, isOperator]
  have hother : Shape.other.Opens lang (c :: t) := List.cons_ne_nil c t
  refine ⟨by unfold shape; grind,?_⟩
  intro r hr
  unfold shape at hr
  cases r <;> grind [Shape.rank]

/-- A longest run of characters behind one that is of their kind. -/
lemma run_takeWhile {p : Char → Bool} {q : Char → Prop} (hpq : ∀ c, p c = true ↔ q c) {c : Char}
    (hc : q c) (t : List Char) :
    Run q (c :: t.take (t.takeWhile p).length) (t.drop (t.takeWhile p).length) := by
  have htake : t.take (t.takeWhile p).length = t.takeWhile p :=
    (List.prefix_iff_eq_take.mp (List.takeWhile_prefix p)).symm
  have hdrop : t.drop (t.takeWhile p).length = t.dropWhile p := by
    have h : (t.takeWhile p ++ t.dropWhile p).drop (t.takeWhile p).length = t.dropWhile p :=
      List.drop_left
    rwa [List.takeWhile_append_dropWhile] at h
  rw [htake, hdrop]
  constructor
  · intro d hd
    rcases List.mem_cons.mp hd with rfl | hd
    · exact hc
    · exact (hpq d).mp (List.mem_takeWhile_imp hd)
  · intro d hd hqd
    have hnot := List.head?_dropWhile_not p t
    rw [Option.mem_def.mp hd] at hnot
    simp [(hpq d).mpr hqd] at hnot

lemma Through.congr {e e' : List Char → Prop} {w r : List Char}
    (he : ∀ v, v <+: w → (e v ↔ e' v)) (h : Through e w r) : Through e' w r := by
  refine ⟨?_,h.2.imp_left (he w (List.prefix_refl w)).mp⟩
  intro v hv hev
  exact h.1 v hv ((he v hv).mpr hev)

lemma through_cons {ends : List Char → Prop} {c : Char} {w r : List Char} (hnil : ¬ ends [])
    (h : Through (fun v => ends (c :: v)) w r) : Through ends (c :: w) r := by
  refine ⟨?_,h.2⟩
  intro v hv hev
  rcases List.prefix_cons_iff.mp hv with rfl | ⟨v',rfl,hv'⟩
  · exact absurd hev hnil
  · rw [h.1 v' hv' hev]

/-- A character that does not start a `*/` does not change whether a piece ends in one. -/
lemma closer_suffix_cons {c : Char} {t v : List Char}
    (h : ∀ x, c = '*' → t = '/' :: x → False) (hv : v <+: t) :
    ['*', '/'] <:+ c :: v ↔ ['*', '/'] <:+ v := by
  rw [List.suffix_cons_iff]
  refine ⟨?_,.inr⟩
  rintro (he | hs)
  · obtain ⟨rfl,rfl⟩ := List.cons.inj he
    obtain ⟨x,hx⟩ := hv
    exact absurd hx.symm (h x rfl)
  · exact hs

/-- The first `*/` is where a comment is closed. -/
theorem through_closeReach (t : List Char) :
    Through (['*', '/'] <:+ ·) (t.take (closeReach t)) (t.drop (closeReach t)) := by
  fun_induction closeReach t with
  | case1 => exact ⟨fun v hv _ => List.prefix_nil.mp hv,.inr rfl⟩
  | case2 t =>
    refine ⟨?_,.inl (List.suffix_refl _)⟩
    intro v hv hev
    exact hv.eq_of_length_le hev.length_le
  | case3 c t hopen ih =>
    rw [List.take_succ_cons, List.drop_succ_cons]
    apply through_cons (by simp)
    refine ih.congr ?_
    intro v hv
    exact (closer_suffix_cons hopen (hv.trans (List.take_prefix _ t))).symm

lemma escapes_concat (t : List Char) (c : Char) : Escapes (t ++ [c]) ↔ c = '\\' ∧ ¬ Escapes t := by
  unfold Escapes
  rw [List.rtakeWhile_concat]
  split_ifs with hc
  · simp only [decide_eq_true_eq] at hc
    simp [hc, Nat.odd_add_one]
  · simp only [decide_eq_true_eq] at hc
    simp [hc]

lemma endsInQuote_concat (q : Char) (t : List Char) (c : Char) :
    EndsInQuote q (t ++ [c]) ↔ c = q ∧ ¬ Escapes t := by
  constructor
  · rintro ⟨u,hu,hesc⟩
    obtain ⟨rfl,hc⟩ := List.append_inj' hu rfl
    exact ⟨by simpa using hc,hesc⟩
  · rintro ⟨rfl,hesc⟩
    exact ⟨t,rfl,hesc⟩

/-- What a search for the first place before which a text satisfies `ends` may answer: the number of
characters before the place, or nothing if there is no such place. -/
def Finds (ends : List Char → Prop) (t : List Char) : Option ℕ → Prop
  | none => ∀ v, v <+: t → ¬ ends v
  | some n => ends (t.take n) ∧ ∀ v, v <+: t.take n → ends v → v = t.take n

lemma Finds.cons {ends : List Char → Prop} {c : Char} {t : List Char} {o : Option ℕ}
    (hnil : ¬ ends []) (h : Finds (fun v => ends (c :: v)) t o) :
    Finds ends (c :: t) (o.map (· + 1)) := by
  cases o with
  | none =>
    intro v hv
    rcases List.prefix_cons_iff.mp hv with rfl | ⟨v',rfl,hv'⟩
    · exact hnil
    · exact h v' hv'
  | some n => exact ⟨h.1,(through_cons (r := []) hnil ⟨h.2,.inr rfl⟩).1⟩

lemma Finds.through {ends : List Char → Prop} {t : List Char} {o : Option ℕ} (h : Finds ends t o) :
    Through ends (t.take (o.getD t.length)) (t.drop (o.getD t.length)) := by
  cases o with
  | none =>
    rw [Option.getD_none, List.take_length, List.drop_length]
    exact ⟨fun v hv hev => absurd hev (h v hv),.inr rfl⟩
  | some n => exact ⟨h.2,.inl h.1⟩

/-- The search for the quote that closes a string, behind a part `x` of the string without it. -/
theorem finds_quoteReach? {q : Char} (hq : q ≠ '\\') {escaped : Bool} {x : List Char}
    (hesc : Escapes x ↔ escaped = true) (hx : ¬ EndsInQuote q x) (t : List Char) :
    Finds (fun v => EndsInQuote q (x ++ v)) t (quoteReach? q escaped t) := by
  -- a character that does not close the string joins the part behind which the search goes on
  have hstep : ∀ {x t : List Char} {c : Char} {o : Option ℕ}, ¬ EndsInQuote q x →
      Finds (fun v => EndsInQuote q (x ++ [c] ++ v)) t o →
      Finds (fun v => EndsInQuote q (x ++ v)) (c :: t) (o.map (· + 1)) := by
    intro x t c o hx h
    refine Finds.cons (by simpa using hx) ?_
    simpa using h
  fun_induction quoteReach? q escaped t generalizing x with
  | case1 escaped =>
    intro v hv
    rw [List.prefix_nil.mp hv]
    simpa using hx
  | case2 c t ih =>
    apply hstep hx
    exact ih (by simp [escapes_concat, hesc]) (by simp [endsInQuote_concat, hesc])
  | case3 t ih =>
    apply hstep hx
    exact ih (by simp [escapes_concat, hesc]) (by simp [endsInQuote_concat, hq.symm])
  | case4 t hne =>
    have hend : EndsInQuote q (x ++ [q]) := by simp [endsInQuote_concat, hesc]
    refine ⟨hend,?_⟩
    intro v hv hev
    rcases List.prefix_cons_iff.mp hv with rfl | ⟨v',rfl,hv'⟩
    · exact absurd (by simpa using hev) hx
    · rw [List.prefix_nil.mp hv', List.take_succ_cons, List.take_zero]
  | case5 c t hne hcq ih =>
    apply hstep hx
    exact ih (by simp [escapes_concat, hne]) (by simp [endsInQuote_concat, hcq])

/-- The search in a string, behind its opening quote. -/
lemma finds_closingQuote {q : Char} (hq : q = '"' ∨ q = '\'') (t : List Char) :
    Finds (EndsInQuote q) t (quoteReach? q false t) := by
  have hne : q ≠ '\\' := by
    rcases hq with rfl | rfl <;> decide
  have h : Finds (fun v => EndsInQuote q ([] ++ v)) t (quoteReach? q false t) :=
    finds_quoteReach? hne (by simp [Escapes]) (by simp [EndsInQuote]) t
  simpa using h

/-- The scan takes the piece that the shape asks for. -/
theorem takes_reach {lang : Language} {c : Char} {t : List Char} {s : Shape}
    (h : s.Opens lang (c :: t)) : s.Takes (c :: t.take (reach c t s)) (t.drop (reach c t s)) := by
  cases s with
  | lineComment =>
    refine run_takeWhile (p := (· != '\n')) (by simp) ?_ t
    rintro rfl
    cases lang <;> simp [Shape.Opens, lineOpener] at h
  | blockComment =>
    obtain ⟨u,hu⟩ := h.2
    obtain ⟨rfl,rfl⟩ : c = '/' ∧ t = '*' :: u := by simpa [eq_comm] using hu
    exact ⟨_,rfl,through_closeReach u⟩
  | quoted =>
    have hq : c = '"' ∨ c = '\'' := by simpa [Shape.Opens] using h
    exact ⟨c,_,rfl,(finds_closingQuote hq t).through⟩
  | number =>
    have hd : c.isDigit = true := by simpa [Shape.Opens] using h
    exact run_takeWhile (p := isNumberChar) (by simp [isNumberChar, or_assoc]) (.inl hd) t
  | word =>
    have hd : isAlphabetic c = true ∨ c = '_' := by simpa [Shape.Opens] using h
    refine run_takeWhile (p := isWordChar) (by simp [isWordChar]) (hd.imp_left ?_) t
    intro ha
    simp [isAlphanumeric, ha]
  | operator => rfl
  | other => rfl

lemma wordHas_wordCategory (keywords : List String) (w r : List Char) :
    WordHas keywords w r (wordCategory keywords w r) := by
  have hupper : (w.head?.map isUppercase).getD false = true ↔ ∃ c ∈ w.head?, isUppercase c := by
    cases w <;> simp
  unfold wordCategory
  split_ifs with hk hp hu
  · exact .keyword (by simpa using hk)
  · exact .function (by simpa using hk) hp
  · exact .type (by simpa using hk) hp (hupper.mp hu)
  · exact .normal (by simpa using hk) hp (mt hupper.mpr hu)

lemma has_categoryOf (keywords : List String) (w r : List Char) (s : Shape) :
    s.Has keywords w r (categoryOf keywords w r s) := by
  cases s with
  | word => exact wordHas_wordCategory keywords w r
  | _ => rfl

/-- What the scan takes from a text is the token that the grammar has there. -/
theorem lexeme_scan (lang : Language) (keywords : List String) (c : Char) (t : List Char) :
    let s := shape lang c t
    let w := c :: t.take (reach c t s)
    let r := t.drop (reach c t s)
    Lexeme lang keywords w r (categoryOf keywords w r s) := by
  intro s w r
  have hlead := leads_shape lang c t
  have htext : w ++ r = c :: t := by rw [List.cons_append, List.take_append_drop]
  exact ⟨s,htext.symm ▸ hlead,takes_reach hlead.1,has_categoryOf keywords w r s⟩

/-- The tokens of a text are a token of the grammar and the tokens of the rest. -/
theorem tokenize_of_lexeme {lang : Language} {keywords : List String} {w r : List Char}
    {k : Category} (h : Lexeme lang keywords w r k) :
    tokenize lang keywords (w ++ r) = ⟨k, w⟩ :: tokenize lang keywords r := by
  obtain ⟨c,w,rfl⟩ := List.exists_cons_of_ne_nil h.ne_nil
  have hscan := lexeme_scan lang keywords c (w ++ r)
  obtain ⟨hw,hr,hk⟩ := h.unique hscan
    (by rw [List.cons_append, List.cons_append, List.take_append_drop])
  rw [List.cons_append, tokenize, ← hk, ← hw, ← hr]

/-- The other way round, the first token of a text is one of the grammar. -/
theorem lexeme_of_tokenize_eq_cons {lang : Language} {keywords : List String} {text : List Char}
    {t : Token} {ts : List Token} (h : tokenize lang keywords text = t :: ts) :
    ∃ r, text = t.text ++ r ∧ Lexeme lang keywords t.text r t.category ∧
      tokenize lang keywords r = ts := by
  cases text with
  | nil => simp at h
  | cons c u =>
    rw [tokenize] at h
    obtain ⟨rfl,rfl⟩ := List.cons.inj h
    exact ⟨_,by rw [List.cons_append, List.take_append_drop],lexeme_scan lang keywords c u,rfl⟩

/-- A span that covers a token of the grammar at its place in a text, with its category. -/
def ObeysGrammar (lang : Language) (keywords : List String) (text : List Char) (s : Span) : Prop :=
  ∃ a w r, text = a ++ (w ++ r) ∧ s.start = bytes a ∧ s.stop = bytes a + bytes w ∧
    Lexeme lang keywords w r s.category

lemma obeysGrammar_of_mem_spansFrom {lang : Language} {keywords : List String} (a text : List Char) :
    ∀ s ∈ spansFrom (bytes a) (tokenize lang keywords text),
      ObeysGrammar lang keywords (a ++ text) s := by
  fun_induction tokenize lang keywords text generalizing a with
  | case1 => simp
  | case2 c t sh n word rest ih =>
    have htext : word ++ rest = c :: t := by rw [List.cons_append, List.take_append_drop]
    intro s hs
    rcases List.mem_cons.mp hs with rfl | hs
    · exact ⟨a,word,rest,by rw [htext],rfl,rfl,lexeme_scan lang keywords c t⟩
    · rw [← bytes_append] at hs
      rw [← htext, ← List.append_assoc]
      exact ih (a ++ word) s hs

/-- Spans that obey the grammar and cover the rest of a text without a gap are those of its tokens. -/
theorem eq_spansFrom_of_contiguous {lang : Language} {keywords : List String} {ss : List Span}
    {a text : List Char} (hc : Contiguous (bytes a) ss (bytes (a ++ text)))
    (hg : ∀ s ∈ ss, ObeysGrammar lang keywords (a ++ text) s) :
    ss = spansFrom (bytes a) (tokenize lang keywords text) := by
  induction ss generalizing a text with
  | nil =>
    have hb : bytes a = bytes (a ++ text) := hc
    obtain rfl : text = [] := by
      by_contra hne
      have hpos := bytes_pos hne
      rw [bytes_append] at hb
      omega
    simp
  | cons s ss ih =>
    obtain ⟨hstart,hc⟩ := hc
    obtain ⟨hs,hss⟩ := List.forall_mem_cons.mp hg
    obtain ⟨a',w,r,htext,hstart',hstop,hlex⟩ := hs
    have ha : a = a' ∧ text = w ++ r := append_inj_of_bytes htext (hstart.symm.trans hstart')
    obtain ⟨rfl,rfl⟩ := ha
    rw [hstop, ← bytes_append] at hc
    rw [← List.append_assoc] at hc hss
    rw [tokenize_of_lexeme hlex, spansFrom_cons, ← bytes_append, ← ih hc hss]
    congr 1
    obtain ⟨⟨start,stop⟩,k⟩ := s
    simp_all

/-- The spans of a text are the one way to cut it, from its first byte to its last and without a
gap, into spans that obey the lexical grammar. -/
theorem eq_spans_tokenize_iff (lang : Language) (keywords : List String) (text : List Char)
    (ss : List Span) :
    ss = spans (tokenize lang keywords text) ↔
      Contiguous 0 ss (bytes text) ∧ ∀ s ∈ ss, ObeysGrammar lang keywords text s := by
  constructor
  · rintro rfl
    constructor
    · have h := contiguous_spansFrom 0 (tokenize lang keywords text)
      rwa [flatMap_text_tokenize, Nat.zero_add] at h
    · exact obeysGrammar_of_mem_spansFrom [] text
  · rintro ⟨hc,hg⟩
    exact eq_spansFrom_of_contiguous (a := []) hc hg

end EditAssist.Token
