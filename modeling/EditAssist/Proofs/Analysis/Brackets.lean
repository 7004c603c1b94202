import EditAssist.Proofs.Analysis.Balance
import EditAssist.Proofs.Analysis.Offsets
import EditAssist.Proofs.Text.LineIndex
import EditAssist.Proofs.Token.Segmentation
import Mathlib.Data.List.Nodup

/-! Which brackets the analysis looks at, and what it makes of them. Brackets stand in comments, in
strings and in plain tokens only, so passing over the comments and the closed strings leaves every
other bracket of the text, once and in order; and the analysis reports nothing exactly if they are
balanced. -/
namespace EditAssist.Token
open Text Unicode

/-- A string that ends in its own quote, which nothing escapes. -/
def IsClosedString (w : List Char) : Prop := ∃ q u, w = q :: u ∧ EndsInQuote q u

lemma lexeme_of_mem_tokenize {lang : Language} {keywords : List String} {text : List Char}
    {t : Token} (h : t ∈ tokenize lang keywords text) :
    ∃ r, Lexeme lang keywords t.text r t.category := by
  fun_induction tokenize lang keywords text with
  | case1 => simp at h
  | case2 c u sh n word rest ih =>
    rcases List.mem_cons.mp h with rfl | h
    · exact ⟨rest,lexeme_scan lang keywords c u⟩
    · exact ih h

/-- What the grammar says of a string. -/
lemma Lexeme.exists_quote {lang : Language} {keywords : List String} {w r : List Char}
    (h : Lexeme lang keywords w r .string) :
    ∃ q u, w = q :: u ∧ (q = '"' ∨ q = '\'') ∧ Through (EndsInQuote q) u r := by
  obtain ⟨s,⟨hopen,-⟩,htake,hhas⟩ := h
  cases s with
  | quoted =>
    obtain ⟨q,u,rfl,hu⟩ := htake
    exact ⟨q,u,rfl,by simpa [Shape.Opens] using hopen,hu⟩
  | _ => cases hhas

/-- A string token is open exactly if it is not closed. -/
lemma isOpenString_iff {lang : Language} {keywords : List String} {t : Token} {r : List Char}
    (h : Lexeme lang keywords t.text r t.category) :
    t.isOpenString = true ↔ t.category = .string ∧ ¬ IsClosedString t.text := by
  obtain ⟨k,w⟩ := t
  by_cases hk : k = .string
  · subst hk
    obtain ⟨q,u,hw,hq,hu⟩ := h.exists_quote
    simp only at hw
    subst hw
    have hclosed : IsClosedString (q :: u) ↔ EndsInQuote q u := by
      simp [IsClosedString]
    have hfind := finds_closingQuote hq u
    simp only [isOpenString, hclosed, true_and]
    cases ho : quoteReach? q false u with
    | none =>
      rw [ho] at hfind
      simpa using hfind u (List.prefix_refl u)
    | some n =>
      rw [ho] at hfind
      have hn : u.take n = u := hu.1 _ (List.take_prefix n u) hfind.1
      simpa [hn] using hfind.1
  · simp [isOpenString, hk]

/-- The span of a token behind others. -/
def spanBehind (ts : List Token) (t : Token) : Span :=
  let start := bytes (ts.flatMap (·.text))
  ⟨⟨start, start + bytes t.text⟩, t.category⟩

lemma getLast?_spans_concat (ts : List Token) (t : Token) :
    (spans (ts ++ [t])).getLast? = some (spanBehind ts t) := by
  rw [spans, spansFrom_append]
  simp [spanBehind]

lemma slice?_spanBehind (ts us : List Token) (t : Token) :
    (spanBehind ts t).slice? ((ts ++ t :: us).flatMap (·.text)) = some t.text := by
  rw [List.flatMap_append, List.flatMap_cons, ← List.append_assoc]
  exact Extent.slice?_append _ _ _

lemma le_of_mem_spansFrom {start : ℕ} {ts : List Token} {s : Span} (h : s ∈ spansFrom start ts) :
    start ≤ s.start ∧ s.stop ≤ start + bytes (ts.flatMap (·.text)) := by
  induction ts generalizing start with
  | nil => simp at h
  | cons t ts ih =>
    rw [List.flatMap_cons, bytes_append]
    rcases List.mem_cons.mp h with rfl | h
    · exact ⟨le_rfl,by simp only; omega⟩
    · have hs := ih h
      omega

/-- A character of a token lies in the span of the token and in no other. -/
theorem forall_span_at_iff {P : Span → Prop} {ts us : List Token} {t : Token} {u v : List Char}
    {c : Char} (ht : t.text = u ++ c :: v) :
    (∀ s ∈ spans (ts ++ t :: us),
      s.contains (bytes (ts.flatMap (·.text) ++ u)) = true → P s) ↔ P (spanBehind ts t) := by
  have hlen : bytes u < bytes t.text := by
    have hc := c.utf8Size_pos
    rw [ht, bytes_append, bytes_cons]
    omega
  have hspans : spans (ts ++ t :: us) = spansFrom 0 ts ++ spanBehind ts t ::
      spansFrom (bytes (ts.flatMap (·.text)) + bytes t.text) us := by
    rw [spans, spansFrom_append, spansFrom_cons, Nat.zero_add]
    rfl
  rw [hspans, bytes_append]
  constructor
  · intro h
    apply h _ (by simp)
    simp [Extent.contains, spanBehind, hlen]
  · intro h s hs hcont
    simp only [Extent.contains, Bool.and_eq_true, decide_eq_true_eq] at hcont
    rcases List.mem_append.mp hs with hs | hs
    · have hle := le_of_mem_spansFrom hs
      omega
    · rcases List.mem_cons.mp hs with rfl | hs
      · exact h
      · have hle := le_of_mem_spansFrom hs
        omega

/-- A character of a text stands in one of its tokens. -/
lemma exists_token_at {ts : List Token} {a b : List Char} {c : Char}
    (h : ts.flatMap (·.text) = a ++ c :: b) :
    ∃ ts₁ t ts₂ u v, ts = ts₁ ++ t :: ts₂ ∧ t.text = u ++ c :: v ∧
      a = ts₁.flatMap (·.text) ++ u := by
  induction ts generalizing a with
  | nil => simp at h
  | cons t ts ih =>
    have hrest : ∀ a', ts.flatMap (·.text) = a' ++ c :: b → a = t.text ++ a' →
        ∃ ts₁ t' ts₂ u v, t :: ts = ts₁ ++ t' :: ts₂ ∧ t'.text = u ++ c :: v ∧
          a = ts₁.flatMap (·.text) ++ u := by
      intro a' ha' ha
      obtain ⟨ts₁,t',ts₂,u,v,rfl,ht',rfl⟩ := ih ha'
      exact ⟨t :: ts₁,t',ts₂,u,v,rfl,ht',by simp [ha]⟩
    rw [List.flatMap_cons] at h
    rcases List.append_eq_append_iff.mp h with ⟨a',ha,ha'⟩ | ⟨x,hx,hb⟩
    · exact hrest a' ha' ha
    · cases x with
      | nil => exact hrest [] hb.symm (by simpa using hx.symm)
      | cons d x =>
        obtain ⟨rfl,-⟩ := List.cons.inj hb
        exact ⟨[],t,ts,a,x,rfl,hx,rfl⟩

/-- A span of a comment or of a closed string in a text. -/
def IsQuiet (text : List Char) (s : Span) : Prop :=
  s.category = .comment ∨ (s.category = .string ∧ ∃ w, s.slice? text = some w ∧ IsClosedString w)

lemma isQuiet_spanBehind (ts us : List Token) (t : Token) :
    IsQuiet ((ts ++ t :: us).flatMap (·.text)) (spanBehind ts t) ↔
      t.category = .comment ∨ (t.category = .string ∧ IsClosedString t.text) := by
  rw [IsQuiet, slice?_spanBehind]
  simp [spanBehind]

end EditAssist.Token

namespace EditAssist.Analysis
open Text Unicode Token

lemma classes_of_bracket {c : Char} (h : c ∈ openers ++ closers) :
    ¬ (c.isDigit ∨ c ∈ ['.', 'f', 'L']) ∧ ¬ (isAlphanumeric c ∨ c = '_') ∧
      c ∉ "+-*/=<>!&|^%~".toList := by
  rcases List.mem_append.mp h with h | h
  · rcases mem_openers_iff.mp h with rfl | rfl | rfl <;> decide
  · rcases mem_closers_iff.mp h with rfl | rfl | rfl <;> decide

/-- A bracket stands in a comment, a string or a plain token. -/
theorem category_of_bracket {lang : Language} {keywords : List String} {w r : List Char}
    {k : Category} (h : Lexeme lang keywords w r k) {c : Char} (hc : c ∈ w)
    (hb : c ∈ openers ++ closers) : k = .comment ∨ k = .string ∨ k = .normal := by
  obtain ⟨hnumber,hword,hoperator⟩ := classes_of_bracket hb
  obtain ⟨s,⟨hopen,-⟩,htake,hhas⟩ := h
  cases s with
  | lineComment => exact .inl hhas
  | blockComment => exact .inl hhas
  | quoted => exact .inr (.inl hhas)
  | number => exact absurd (htake.1 c hc) hnumber
  | word => exact absurd (htake.1 c hc) hword
  | operator =>
    obtain ⟨d,rfl⟩ := List.length_eq_one_iff.mp htake
    obtain rfl := List.mem_singleton.mp hc
    exact absurd (by simpa [Shape.Opens] using hopen) hoperator
  | other => exact .inr (.inr hhas)

/-- The brackets of a token count unless it is a comment or a closed string. -/
lemma holdsCode_iff {lang : Language} {keywords : List String} {t : Token} {r : List Char}
    (h : Lexeme lang keywords t.text r t.category) {c : Char} (hc : c ∈ t.text)
    (hb : c ∈ openers ++ closers) :
    holdsCode t = true ↔
      ¬ (t.category = .comment ∨ (t.category = .string ∧ IsClosedString t.text)) := by
  rw [holdsCode, Bool.or_eq_true, decide_eq_true_eq, isOpenString_iff h]
  rcases category_of_bracket h hc hb with hk | hk | hk <;> simp [hk]

lemma placed_append (start : ℕ) (s t : List Char) :
    placed start (s ++ t) = placed start s ++ placed (start + bytes s) t := by
  induction s generalizing start with
  | nil => rfl
  | cons c s ih => simp [placed, ih, Nat.add_assoc]

lemma codeFrom_append (start : ℕ) (ts us : List Token) :
    codeFrom start (ts ++ us) =
      codeFrom start ts ++ codeFrom (start + bytes (ts.flatMap (·.text))) us := by
  induction ts generalizing start with
  | nil => rfl
  | cons t ts ih =>
    simp only [List.cons_append, codeFrom, ih, List.flatMap_cons, bytes_append, Nat.add_assoc]
    split_ifs <;> simp

/-- The characters that count as code are those of the tokens that do. -/
theorem mem_codeFrom_iff {start o : ℕ} {c : Char} {ts : List Token} :
    (o, c) ∈ codeFrom start ts ↔
      ∃ ts₁ t ts₂ u v, ts = ts₁ ++ t :: ts₂ ∧ holdsCode t = true ∧ t.text = u ++ c :: v ∧
        o = start + bytes (ts₁.flatMap (·.text) ++ u) := by
  constructor
  · intro h
    induction ts generalizing start with
    | nil => simp [codeFrom] at h
    | cons t ts ih =>
      have hrest : (o, c) ∈ codeFrom (start + bytes t.text) ts →
          ∃ ts₁ t' ts₂ u v, t :: ts = ts₁ ++ t' :: ts₂ ∧ holdsCode t' = true ∧
            t'.text = u ++ c :: v ∧ o = start + bytes (ts₁.flatMap (·.text) ++ u) := by
        intro h
        obtain ⟨ts₁,t',ts₂,u,v,rfl,ht',htext,rfl⟩ := ih h
        exact ⟨t :: ts₁,t',ts₂,u,v,rfl,ht',htext,by simp [Nat.add_assoc]⟩
      simp only [codeFrom] at h
      split_ifs at h with ht
      · rcases List.mem_append.mp h with h | h
        · obtain ⟨u,v,htext,rfl⟩ := exists_parts_of_mem_placed h
          exact ⟨[],t,ts,u,v,rfl,ht,htext,rfl⟩
        · exact hrest h
      · exact hrest h
  · rintro ⟨ts₁,t,ts₂,u,v,rfl,ht,htext,rfl⟩
    rw [codeFrom_append, codeFrom, if_pos ht, htext, placed_append, bytes_append, Nat.add_assoc]
    simp [placed]

/-- A bracket in a token of a text lies in no comment and in no closed string exactly if it counts. -/
lemma forall_not_isQuiet_iff {lang : Language} {keywords : List String} {text : List Char}
    {ts us : List Token} {t : Token} {u v : List Char} {c : Char}
    (hts : tokenize lang keywords text = ts ++ t :: us) (ht : t.text = u ++ c :: v)
    (hb : c ∈ openers ++ closers) :
    (∀ s ∈ spans (tokenize lang keywords text),
      s.contains (bytes (ts.flatMap (·.text) ++ u)) = true → ¬ IsQuiet text s) ↔
    holdsCode t = true := by
  have hmem : t ∈ tokenize lang keywords text := by simp [hts]
  obtain ⟨r,hlex⟩ := lexeme_of_mem_tokenize hmem
  have htext : (ts ++ t :: us).flatMap (·.text) = text := by
    rw [← hts, flatMap_text_tokenize]
  rw [holdsCode_iff hlex (by simp [ht]) hb, hts, forall_span_at_iff ht, ← isQuiet_spanBehind ts us t,
    htext]

/-- The brackets that count are those of the text outside comments and closed strings. -/
theorem mem_brackets_iff (lang : Language) (keywords : List String) (text : List Char) (o : ℕ)
    (c : Char) :
    (o, c) ∈ brackets (tokenize lang keywords text) ↔
      (∃ a b, text = a ++ c :: b ∧ o = bytes a) ∧ c ∈ openers ++ closers ∧
        ∀ s ∈ spans (tokenize lang keywords text), s.contains o = true → ¬ IsQuiet text s := by
  have hbracket : (isOpener c || isCloser c) = true ↔ c ∈ openers ++ closers := by
    rw [Bool.or_eq_true, isOpener_iff, isCloser_iff, List.mem_append]
  rw [brackets, List.mem_filter, mem_codeFrom_iff, hbracket]
  constructor
  · rintro ⟨⟨ts,t,us,u,v,hts,hcode,ht,rfl⟩,hb⟩
    rw [Nat.zero_add]
    refine ⟨⟨_,v ++ us.flatMap (·.text),?_,rfl⟩,hb,(forall_not_isQuiet_iff hts ht hb).mpr hcode⟩
    rw [← flatMap_text_tokenize lang keywords text, hts]
    simp [ht]
  · rintro ⟨⟨a,b,htext,rfl⟩,hb,hquiet⟩
    rw [← flatMap_text_tokenize lang keywords text] at htext
    obtain ⟨ts,t,us,u,v,hts,ht,rfl⟩ := exists_token_at htext
    have hcode := (forall_not_isQuiet_iff hts ht hb).mp hquiet
    exact ⟨⟨ts,t,us,u,v,hts,hcode,ht,(Nat.zero_add _).symm⟩,hb⟩

/-- The characters that count as code are some of those of the text, in order. -/
lemma codeFrom_sublist (start : ℕ) (ts : List Token) :
    List.Sublist (codeFrom start ts) (placed start (ts.flatMap (·.text))) := by
  induction ts generalizing start with
  | nil => exact List.Sublist.refl _
  | cons t ts ih =>
    rw [List.flatMap_cons, placed_append]
    simp only [codeFrom]
    split_ifs
    · exact (List.Sublist.refl _).append (ih _)
    · exact (ih _).trans (List.sublist_append_right _ _)

lemma pairwise_placed (start : ℕ) (t : List Char) :
    (placed start t).Pairwise (fun p q => p.1 < q.1) := by
  induction t generalizing start with
  | nil => exact List.Pairwise.nil
  | cons c t ih =>
    refine List.Pairwise.cons ?_ (ih _)
    rintro ⟨o,d⟩ h
    obtain ⟨a,b,-,rfl⟩ := exists_parts_of_mem_placed h
    have hc := c.utf8Size_pos
    simp only
    omega

/-- The brackets come in the order of the text, each once. -/
theorem pairwise_brackets (ts : List Token) : (brackets ts).Pairwise (fun p q => p.1 < q.1) :=
  (pairwise_placed 0 _).sublist (List.filter_sublist.trans (codeFrom_sublist 0 ts))

lemma isBracket_of_mem_brackets {ts : List Token} {b : ℕ × Char} (h : b ∈ brackets ts) :
    isOpener b.2 = true ∨ isCloser b.2 = true := by
  rw [← Bool.or_eq_true]
  exact (List.mem_filter.mp h).2

/-- No two faults are found at the same offset. -/
lemma nodup_offsets_matchBrackets (ts : List Token) :
    ((matchBrackets [] (brackets ts)).map Prod.fst).Nodup := by
  have hbs : ((brackets ts).map Prod.fst).Nodup := by
    rw [List.Nodup, List.pairwise_map]
    exact (pairwise_brackets ts).imp Nat.ne_of_lt
  obtain ⟨l,hperm,hsub⟩ := subperm_matchBrackets [] (brackets ts)
  exact hperm.nodup_iff.mp (hbs.sublist hsub)

/-- The analysis of brackets is exact. It looks at the brackets of the text that lie in no comment
and in no closed string, once each and in order; it reports nothing exactly if these are balanced;
the unclosed brackets it reports exceed the unmatched ones by as much as the openers exceed the
closers; and it reports no place twice. -/
theorem bracketDiagnostics_exact (lang : Language) (keywords : List String) (text : List Char) :
    let ts := tokenize lang keywords text
    let bs := brackets ts
    let ds := bracketDiagnostics (LineIndex.ofText text) ts
    (∀ o c, (o, c) ∈ bs ↔ (∃ a b, text = a ++ c :: b ∧ o = bytes a) ∧ c ∈ openers ++ closers ∧
      ∀ s ∈ spans ts, s.contains o = true → ¬ IsQuiet text s) ∧
    bs.Pairwise (fun p q => p.1 < q.1) ∧
    (ds = [] ↔ Balanced (bs.map Prod.snd)) ∧
    (bs.countP (·.2 ∈ openers) : ℤ) - bs.countP (·.2 ∈ closers) =
      ds.countP (·.kind = "unclosed_bracket") - ds.countP (·.kind = "unmatched_bracket") ∧
    (ds.map fun d => (d.line, d.column)).Nodup := by
  intro ts bs ds
  refine ⟨mem_brackets_iff lang keywords text,pairwise_brackets ts,?_,?_,?_⟩
  · rw [← matchBrackets_eq_nil_iff_balanced fun b hb => isBracket_of_mem_brackets hb]
    exact List.map_eq_nil_iff
  · have hopen : bs.countP (·.2 ∈ openers) = bs.countP (isOpener ·.2) :=
      List.countP_congr fun b _ => by simp [isOpener_iff]
    have hclose : bs.countP (·.2 ∈ closers) = bs.countP (isCloser ·.2) :=
      List.countP_congr fun b _ => by simp [isCloser_iff]
    have hkind : ∀ kind : String,
        ds.countP (·.kind = kind) = (matchBrackets [] bs).countP (·.2.kind = kind) := by
      intro kind
      simp only [ds, bracketDiagnostics, List.countP_map]
      rfl
    have hcount := count_matchBrackets [] bs
    rw [hopen, hclose, hkind, hkind]
    rw [List.length_nil] at hcount
    omega
  · have hplaces : ds.map (fun d => (d.line, d.column)) =
        ((matchBrackets [] bs).map Prod.fst).map (LineIndex.ofText text).locate := by
      simp only [ds, bracketDiagnostics, List.map_map]
      rfl
    rw [hplaces]
    exact List.Nodup.map (LineIndex.locate_injective text) (nodup_offsets_matchBrackets ts)

end EditAssist.Analysis
