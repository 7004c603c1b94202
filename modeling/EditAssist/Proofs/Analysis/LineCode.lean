import EditAssist.Proofs.Analysis.Brackets
import EditAssist.Proofs.Analysis.Columns
import EditAssist.Proofs.Token.Restart

/-! The code of a line by its tokens. What the checks of a line call its code is found by two searches
for a comment opener, which know quotes but no tokens. In a line that starts where a token does, both
searches walk over a string as the scan does and find no opener before the first comment, so the code
is the line up to the first comment that begins in it. -/
namespace EditAssist.Analysis
open Text Token Unicode

section Search
variable {o : List Char} {c q : Char} {t : List Char}

/-- Inside quotes, the search goes on behind the quote that closes the string, if there is one. -/
lemma codeBefore_some (o : List Char) (q : Char) (escaped : Bool) (t : List Char) :
    codeBefore o (some q) escaped t =
      match quoteReach? q escaped t with
      | none => t
      | some n => t.take n ++ codeBefore o none false (t.drop n) := by
  fun_induction quoteReach? q escaped t with
  | case1 escaped => rfl
  | case2 c t ih =>
    rw [codeBefore, if_pos rfl, ih]
    cases quoteReach? q false t <;> simp
  | case3 t ih =>
    rw [codeBefore, if_neg (by simp), if_pos rfl, ih]
    cases quoteReach? q true t <;> simp
  | case4 t hne =>
    rw [codeBefore, if_neg (by simp), if_neg hne, if_pos rfl]
    simp
  | case5 c t hne hcq ih =>
    rw [codeBefore, if_neg (by simp), if_neg hne, if_neg hcq, ih]
    cases quoteReach? q false t <;> simp

lemma codeBefore_quote (hq : q = '"' ∨ q = '\'') :
    codeBefore o none false (q :: t) = q :: codeBefore o (some q) false t := by
  rw [codeBefore, if_pos (by simpa using hq)]

/-- Outside quotes, the search goes on behind a character that opens nothing. -/
lemma codeBefore_cons (hq : ¬ (c = '"' ∨ c = '\'')) (ho : ¬ o <+: c :: t) :
    codeBefore o none false (c :: t) = c :: codeBefore o none false t := by
  rw [codeBefore, if_neg (by simpa using hq), if_neg (by rwa [List.isPrefixOf_iff_prefix])]

/-- A string that is closed is passed over. -/
lemma codeBefore_closed (hq : q = '"' ∨ q = '\'') {u : List Char}
    (hfirst : ∀ v, v <+: u → EndsInQuote q v → v = u) (hu : EndsInQuote q u) (x : List Char) :
    codeBefore o (some q) false (u ++ x) = u ++ codeBefore o none false x := by
  have hfind := finds_closingQuote hq (u ++ x)
  rw [codeBefore_some]
  cases hr : quoteReach? q false (u ++ x) with
  | none =>
    rw [hr] at hfind
    exact absurd hu (hfind u (List.prefix_append u x))
  | some n =>
    rw [hr] at hfind
    have htake : (u ++ x).take n = u := by
      rcases List.prefix_or_prefix_of_prefix (List.take_prefix n (u ++ x))
        (List.prefix_append u x) with h | h
      · exact hfirst _ h hfind.1
      · exact (hfind.2 u h hu).symm
    have hdrop : (u ++ x).drop n = x := by
      have hcut := List.take_append_drop n (u ++ x)
      rw [htake] at hcut
      exact List.append_cancel_left hcut
    simp only [htake, hdrop]

/-- One that is not closed is passed over as far as the line goes. -/
lemma codeBefore_open (hq : q = '"' ∨ q = '\'') {u : List Char}
    (hu : ∀ v, v <+: u → ¬ EndsInQuote q v) : codeBefore o (some q) false u = u := by
  have hfind := finds_closingQuote hq u
  rw [codeBefore_some]
  cases hr : quoteReach? q false u with
  | none => rfl
  | some n =>
    rw [hr] at hfind
    exact absurd hfind.1 (hu _ (List.take_prefix n u))

end Search

section Tokens
variable {lang : Language} {o : List Char}

/-- What opens a comment in a language. -/
def OpensComment (lang : Language) (o : List Char) : Prop :=
  o = lineOpener lang ∨ lang ≠ .python ∧ o = ['/', '*']

lemma OpensComment.head {c : Char} {t : List Char} (ho : OpensComment lang o) (h : o <+: c :: t) :
    c = '/' ∨ c = '#' := by
  rcases ho with rfl | ⟨-,rfl⟩
  · cases lang <;> simp_all [lineOpener, eq_comm]
  · simp_all [eq_comm]

/-- A piece without quotes and without what openers begin with is passed over. -/
lemma codeBefore_plain (ho : OpensComment lang o) {w : List Char}
    (hw : ∀ c ∈ w, c ∉ ['"', '\'', '/', '#']) (x : List Char) :
    codeBefore o none false (w ++ x) = w ++ codeBefore o none false x := by
  induction w with
  | nil => rfl
  | cons c w ih =>
    obtain ⟨hc,hw⟩ := List.forall_mem_cons.mp hw
    simp only [List.mem_cons, List.not_mem_nil, or_false, not_or] at hc
    have hopen : ¬ o <+: c :: (w ++ x) := by
      intro h
      rcases ho.head h with rfl | rfl <;> simp at hc
    rw [List.cons_append, codeBefore_cons (by simp [hc]) hopen, ih hw, List.cons_append]

lemma plain_of_wordChar {c : Char} (h : isAlphanumeric c ∨ c = '_') : c ∉ ['"', '\'', '/', '#'] := by
  intro hc
  simp only [List.mem_cons, List.not_mem_nil, or_false] at hc
  rcases hc with rfl | rfl | rfl | rfl <;> revert h <;> decide

lemma plain_of_numberChar {c : Char} (h : c.isDigit ∨ c ∈ ['.', 'f', 'L']) :
    c ∉ ['"', '\'', '/', '#'] := by
  intro hc
  simp only [List.mem_cons, List.not_mem_nil, or_false] at hc
  rcases hc with rfl | rfl | rfl | rfl <;> revert h <;> decide

/-- Shapes of tokens that are no comments. -/
def IsCode (s : Shape) : Prop := s ≠ .lineComment ∧ s ≠ .blockComment

/-- No comment is opened where code takes precedence. -/
lemma Leads.not_opensComment {s : Shape} {t : List Char} (h : s.Leads lang t) (hs : IsCode s)
    (ho : OpensComment lang o) : ¬ o <+: t := by
  intro hp
  rcases ho with rfl | ⟨hl,rfl⟩
  · refine h.2 .lineComment ?_ hp
    cases s <;> simp_all [IsCode, Shape.rank]
  · refine h.2 .blockComment ?_ ⟨hl,hp⟩
    cases s <;> simp_all [IsCode, Shape.rank]

lemma Opens.quote {q : Char} {t : List Char} (h : Shape.quoted.Opens lang (q :: t)) :
    q = '"' ∨ q = '\'' := by
  simpa [Shape.Opens] using h

/-- The search passes over a token of one character that opens nothing. -/
lemma codeBefore_single {s : Shape} {w r : List Char} (hlead : s.Leads lang (w ++ r))
    (hw : w.length = 1) (hs : Shape.quoted.rank < s.rank) (ho : OpensComment lang o) {x : List Char}
    (hx : x <+: r) : codeBefore o none false (w ++ x) = w ++ codeBefore o none false x := by
  obtain ⟨c,rfl⟩ := List.length_eq_one_iff.mp hw
  have hcode : IsCode s := by
    constructor <;> rintro rfl <;> simp [Shape.rank] at hs
  have hquote : ¬ (c = '"' ∨ c = '\'') := by
    simpa [Shape.Opens] using hlead.2 .quoted hs
  have hopen : ¬ o <+: c :: x := by
    intro h
    exact Leads.not_opensComment hlead hcode ho (h.trans ((List.prefix_cons_inj c).mpr hx))
  exact codeBefore_cons hquote hopen

/-- The search passes over a token that is no comment, in a line that has all of it. -/
theorem codeBefore_through {s : Shape} {w r : List Char} (hlead : s.Leads lang (w ++ r))
    (htake : s.Takes w r) (hs : IsCode s) (ho : OpensComment lang o) {x : List Char} (hx : x <+: r) :
    codeBefore o none false (w ++ x) = w ++ codeBefore o none false x := by
  cases s with
  | lineComment => exact absurd rfl hs.1
  | blockComment => exact absurd rfl hs.2
  | quoted =>
    obtain ⟨q,u,rfl,hu⟩ := htake
    have hq := Opens.quote hlead.1
    rw [List.cons_append, codeBefore_quote hq, List.cons_append]
    by_cases hend : EndsInQuote q u
    · rw [codeBefore_closed hq hu.1 hend]
    · obtain rfl := hu.2.resolve_left hend
      obtain rfl := List.prefix_nil.mp hx
      have hopen : ∀ v, v <+: u → ¬ EndsInQuote q v := by
        intro v hv hev
        exact hend (hu.1 v hv hev ▸ hev)
      rw [List.append_nil, codeBefore_open hq hopen, codeBefore, List.append_nil]
  | number => exact codeBefore_plain ho (fun c hc => plain_of_numberChar (htake.1 c hc)) x
  | word => exact codeBefore_plain ho (fun c hc => plain_of_wordChar (htake.1 c hc)) x
  | operator => exact codeBefore_single hlead htake (by decide) ho hx
  | other => exact codeBefore_single hlead htake (by decide) ho hx

/-- It passes over what a line has of a token that goes on behind the line. -/
theorem codeBefore_inside {s : Shape} {x z r : List Char} (hlead : s.Leads lang (x ++ z ++ r))
    (htake : s.Takes (x ++ z) r) (hs : IsCode s) (hz : z ≠ []) (ho : OpensComment lang o) :
    codeBefore o none false x = x := by
  have hplain : (∀ c ∈ x, c ∉ ['"', '\'', '/', '#']) → codeBefore o none false x = x := by
    intro hx
    have h := codeBefore_plain ho hx []
    rwa [codeBefore, List.append_nil] at h
  have hsingle : (x ++ z).length = 1 → codeBefore o none false x = x := by
    intro hlen
    have hpos := List.length_pos_of_ne_nil hz
    obtain rfl : x = [] := by
      rw [List.length_append] at hlen
      exact List.eq_nil_of_length_eq_zero (by omega)
    rfl
  cases s with
  | lineComment => exact absurd rfl hs.1
  | blockComment => exact absurd rfl hs.2
  | quoted =>
    obtain ⟨q,u,hw,hu⟩ := htake
    cases x with
    | nil => rfl
    | cons c x =>
      rw [List.cons_append] at hw
      obtain ⟨rfl,rfl⟩ := List.cons.inj hw
      have hopen : ∀ v, v <+: x → ¬ EndsInQuote c v := by
        intro v hv hev
        have hlen := congrArg List.length (hu.1 v (hv.trans (List.prefix_append x z)) hev)
        have hle := hv.length_le
        have hpos := List.length_pos_of_ne_nil hz
        rw [List.length_append] at hlen
        omega
      have hq := Opens.quote hlead.1
      rw [codeBefore_quote hq, codeBefore_open hq hopen]
  | number => exact hplain fun c hc => plain_of_numberChar (htake.1 c (List.mem_append_left z hc))
  | word => exact hplain fun c hc => plain_of_wordChar (htake.1 c (List.mem_append_left z hc))
  | operator => exact hsingle htake
  | other => exact hsingle htake

/-- What the searches find is no more than they pass over, so one of them can follow the other. -/
lemma codeOf_through {s : Shape} {w r : List Char} (hlead : s.Leads lang (w ++ r))
    (htake : s.Takes w r) (hs : IsCode s) {x : List Char} (hx : x <+: r) :
    codeOf lang (w ++ x) = w ++ codeOf lang x := by
  have hline := codeBefore_through hlead htake hs (.inl rfl) hx
  unfold codeOf
  simp only [toList_lineComment]
  split_ifs with hl
  · have hl := (hasBlockComments_iff lang).mp hl
    rw [hline, codeBefore_through hlead htake hs (.inr ⟨hl,rfl⟩) ((codeBefore_isPrefix ..).trans hx)]
  · exact hline

lemma codeOf_inside {s : Shape} {x z r : List Char} (hlead : s.Leads lang (x ++ z ++ r))
    (htake : s.Takes (x ++ z) r) (hs : IsCode s) (hz : z ≠ []) : codeOf lang x = x := by
  have hline := codeBefore_inside hlead htake hs hz (.inl rfl)
  unfold codeOf
  simp only [toList_lineComment, hline]
  split_ifs with hl
  · have hl := (hasBlockComments_iff lang).mp hl
    exact codeBefore_inside hlead htake hs hz (.inr ⟨hl,rfl⟩)
  · rfl

/-- Before a comment there is no code. -/
lemma codeOf_of_opener (ho : OpensComment lang o) {x : List Char} (hx : o <+: x) :
    codeOf lang x = [] := by
  obtain ⟨x,rfl⟩ := hx
  rcases ho with rfl | ⟨hl,rfl⟩
  · cases lang <;> simp [codeOf, codeBefore, Language.lineComment, Language.hasBlockComments, lineOpener]
  · cases lang <;> simp_all [codeOf, codeBefore, Language.lineComment, Language.hasBlockComments]

end Tokens

section Line
variable {lang : Language} {keywords : List String}

/-- The text of tokens up to the first comment. -/
def codeAhead (ts : List Token) : List Char :=
  (ts.takeWhile (·.category ≠ .comment)).flatMap (·.text)

lemma codeAhead_cons_of_comment {t : Token} (ht : t.category = .comment) (ts : List Token) :
    codeAhead (t :: ts) = [] := by
  simp [codeAhead, ht]

lemma codeAhead_cons {t : Token} (ht : t.category ≠ .comment) (ts : List Token) :
    codeAhead (t :: ts) = t.text ++ codeAhead ts := by
  simp [codeAhead, ht]

lemma categoryOf_eq_comment_iff (keywords : List String) (w r : List Char) (s : Shape) :
    categoryOf keywords w r s = .comment ↔ ¬ IsCode s := by
  cases s with
  | word => simpa [categoryOf, IsCode] using (wordCategory_ne keywords w r).1
  | _ => simp [categoryOf, IsCode]

lemma Leads.exists_opener {s : Shape} {t : List Char} (h : s.Leads lang t) (hs : ¬ IsCode s) :
    ∃ o, OpensComment lang o ∧ o <+: t := by
  cases s with
  | lineComment => exact ⟨_,.inl rfl,h.1⟩
  | blockComment => exact ⟨_,.inr ⟨h.1.1,rfl⟩,h.1.2⟩
  | _ => exact absurd ⟨by simp,by simp⟩ hs

lemma OpensComment.not_mem {o : List Char} (ho : OpensComment lang o) : '\n' ∉ o ∧ '\r' ∉ o := by
  rcases ho with rfl | ⟨-,rfl⟩
  · cases lang <;> decide
  · decide

/-- What follows the text of a line: nothing, a newline or a carriage return. -/
def EndsLine (e : List Char) : Prop := ∀ c ∈ e.head?, c = '\n' ∨ c = '\r'

/-- The end of a line cuts no opener. -/
lemma EndsLine.opener_prefix {o x e : List Char} (he : EndsLine e) (ho : OpensComment lang o)
    (h : o <+: x ++ e) : o <+: x := by
  obtain ⟨y,hy⟩ := h
  rcases through_or_inside hy.symm with ⟨o',rfl,rfl⟩ | ⟨z,-,rfl⟩
  · cases o' with
    | nil => simp
    | cons c o' =>
      have hmem := ho.not_mem
      rcases he c rfl with rfl | rfl <;> simp at hmem
  · exact List.prefix_append o z

/-- The code of what a line has behind the start of a token is cut at the first comment. -/
theorem codeOf_eq_take {e : List Char} (he : EndsLine e) (x : List Char) {text : List Char}
    (htext : text = x ++ e) :
    codeOf lang x = x.take (codeAhead (tokenize lang keywords text)).length := by
  fun_induction tokenize lang keywords text generalizing x with
  | case1 =>
    obtain ⟨rfl,-⟩ := List.append_eq_nil_iff.mp htext.symm
    cases lang <;> rfl
  | case2 c t s n word rest ih =>
    have hcut : word ++ rest = x ++ e := by rw [← htext, List.cons_append, List.take_append_drop]
    have hlead : s.Leads lang (word ++ rest) := by
      rw [hcut, ← htext]
      exact leads_shape lang c t
    have htake : s.Takes word rest := takes_reach (leads_shape lang c t).1
    by_cases hs : IsCode s
    · have hk : categoryOf keywords word rest s ≠ .comment :=
        fun hk => (categoryOf_eq_comment_iff ..).mp hk hs
      rw [codeAhead_cons hk, List.length_append]
      rcases through_or_inside hcut with ⟨x,rfl,hrest⟩ | ⟨z,hz,hw⟩
      · rw [codeOf_through hlead htake hs ⟨e,hrest.symm⟩, ih x hrest, List.take_length_add_append]
      · rw [hw] at hlead htake ⊢
        rw [codeOf_inside hlead htake hs hz, List.take_of_length_le]
        rw [List.length_append]
        omega
    · have hk := (categoryOf_eq_comment_iff keywords word rest s).mpr hs
      obtain ⟨o,ho,hp⟩ := Leads.exists_opener hlead hs
      rw [hcut] at hp
      rw [codeAhead_cons_of_comment hk, codeOf_of_opener ho (he.opener_prefix ho hp)]
      rfl

/-- The tokens ahead of the first comment, and the others. -/
lemma exists_tokens_ahead (us : List Token) :
    ∃ cs rest, us = cs ++ rest ∧ codeAhead us = cs.flatMap (·.text) ∧
      (∀ t ∈ cs, t.category ≠ .comment) ∧ ∀ t ∈ rest.head?, t.category = .comment := by
  induction us with
  | nil => exact ⟨[],[],rfl,rfl,by simp,by simp⟩
  | cons t us ih =>
    by_cases ht : t.category = .comment
    · exact ⟨[],t :: us,rfl,codeAhead_cons_of_comment ht us,by simp,by simpa using ht⟩
    · obtain ⟨cs,rest,rfl,hcode,hcs,hrest⟩ := ih
      refine ⟨t :: cs,rest,rfl,?_,List.forall_mem_cons.mpr ⟨ht,hcs⟩,hrest⟩
      rw [codeAhead_cons ht, hcode, List.flatMap_cons]

lemma codeAhead_isPrefix (us : List Token) : codeAhead us <+: us.flatMap (·.text) := by
  obtain ⟨cs,rest,rfl,hcode,-⟩ := exists_tokens_ahead us
  rw [hcode, List.flatMap_append]
  exact List.prefix_append _ _

/-- No character ahead of the first comment lies in a comment. -/
lemma not_comment_of_codeAhead {us : List Token} {u v : List Char} {c : Char}
    (h : codeAhead us = u ++ c :: v) (ts : List Token) :
    ∀ s ∈ spans (ts ++ us), s.contains (bytes (ts.flatMap (·.text) ++ u)) = true →
      s.category ≠ .comment := by
  obtain ⟨cs,rest,rfl,hcode,hcs,-⟩ := exists_tokens_ahead us
  obtain ⟨ts₁,t,ts₂,u₁,v₁,rfl,ht,rfl⟩ := exists_token_at (hcode.symm.trans h)
  have hk : t.category ≠ .comment := hcs t (by simp)
  have hsplit : ts ++ (ts₁ ++ t :: ts₂ ++ rest) = (ts ++ ts₁) ++ t :: (ts₂ ++ rest) := by simp
  rw [hsplit, ← List.append_assoc, ← List.flatMap_append]
  exact (forall_span_at_iff (P := (·.category ≠ .comment)) ht).mpr hk

lemma spanBehind_mem (ts : List Token) (t : Token) (us : List Token) :
    spanBehind ts t ∈ spans (ts ++ t :: us) := by
  rw [spans, spansFrom_append]
  simp [spanBehind]

/-- What follows the code ahead begins with a comment. -/
lemma exists_comment_behind_codeAhead {us : List Token} {y : List Char}
    (h : us.flatMap (·.text) = codeAhead us ++ y) (hy : y ≠ []) (ts : List Token) :
    ∃ s ∈ spans (ts ++ us), s.category = .comment ∧
      s.start = bytes (ts.flatMap (·.text) ++ codeAhead us) := by
  obtain ⟨cs,rest,rfl,hcode,-,hrest⟩ := exists_tokens_ahead us
  cases rest with
  | nil =>
    rw [hcode, List.append_nil] at h
    exact absurd (List.append_right_eq_self.mp h.symm) hy
  | cons t rest =>
    rw [hcode, ← List.flatMap_append, ← List.append_assoc]
    exact ⟨_,spanBehind_mem (ts ++ cs) t rest,hrest t rfl,rfl⟩

/-- A text that is cut inside no span is cut between two tokens. -/
lemma exists_tokens_of_cut {a y : List Char}
    (h : ∀ s ∈ spans (tokenize lang keywords (a ++ y)), ¬ (s.start < bytes a ∧ bytes a < s.stop)) :
    ∃ ts, tokenize lang keywords (a ++ y) = ts ++ tokenize lang keywords y ∧
      ts.flatMap (·.text) = a := by
  cases y with
  | nil => exact ⟨tokenize lang keywords a,by simp,flatMap_text_tokenize lang keywords a⟩
  | cons c b =>
    obtain ⟨ts,t,us,u,v,hts,ht,rfl⟩ := exists_token_at (flatMap_text_tokenize lang keywords (a ++ c :: b))
    have hspan := h (spanBehind ts t) (hts ▸ spanBehind_mem ts t us)
    obtain rfl : u = [] := by
      by_contra hu
      apply hspan
      have hpos := bytes_pos hu
      have hc := c.utf8Size_pos
      simp only [spanBehind, ht, bytes_append, bytes_cons]
      omega
    rw [List.append_nil] at hts ⊢
    have htext := flatMap_text_tokenize lang keywords (ts.flatMap (·.text) ++ c :: b)
    rw [hts, List.flatMap_append] at htext
    have happend := tokenize_append hts []
    rw [List.append_nil, List.append_nil, List.append_cancel_left htext] at happend
    exact ⟨ts,happend,rfl⟩

lemma exists_return (t : List Char) : ∃ e, t = dropReturn t ++ e ∧ (e = [] ∨ e = ['\r']) := by
  unfold dropReturn
  split_ifs with h
  · obtain ⟨u,rfl⟩ := List.getLast?_eq_some_iff.mp h
    exact ⟨['\r'],by simp,.inr rfl⟩
  · exact ⟨[],by simp,.inl rfl⟩

/-- A line stands in its text before an end of a line. -/
lemma exists_parts_of_line {text : List Char} {l : Line} (hl : l ∈ lines text) :
    ∃ a e, text = a ++ (l.text ++ e) ∧ l.start = bytes a ∧ EndsLine e := by
  obtain ⟨i,hi⟩ := List.mem_iff_getElem?.mp hl
  obtain ⟨a,b,htext,hstart,-,-,-,hb⟩ := isAt_of_getElem?_lines hi
  obtain ⟨e,hraw,he⟩ := exists_return l.raw
  refine ⟨a,e ++ b,?_,hstart,?_⟩
  · rw [htext, Line.text, ← List.append_assoc (dropReturn l.raw), ← hraw, List.append_assoc]
  · rcases he with rfl | rfl
    · rcases hb with rfl | hb
      · simp [EndsLine]
      · simp [EndsLine, hb]
    · simp [EndsLine]

/-- The code of a line that starts inside no token: none of it lies in a comment, and it is the whole
line or ends where a comment begins. -/
theorem codeOf_line {text : List Char} {l : Line} (hl : l ∈ lines text)
    (hstart : ∀ s ∈ spans (tokenize lang keywords text), ¬ (s.start < l.start ∧ l.start < s.stop)) :
    (∀ u c v, codeOf lang l.text = u ++ c :: v →
      ∀ s ∈ spans (tokenize lang keywords text), s.contains (l.start + bytes u) = true →
        s.category ≠ .comment) ∧
    ∃ rest, l.text = codeOf lang l.text ++ rest ∧
      (rest = [] ∨ ∃ s ∈ spans (tokenize lang keywords text), s.category = .comment ∧
        s.start = l.start + bytes (codeOf lang l.text)) := by
  obtain ⟨a,e,rfl,ha,he⟩ := exists_parts_of_line hl
  rw [ha] at hstart ⊢
  obtain ⟨ts,hts,rfl⟩ := exists_tokens_of_cut hstart
  have htext := flatMap_text_tokenize lang keywords (l.text ++ e)
  have hcode := @codeOf_eq_take lang keywords e he l.text _ rfl
  rw [hts]
  simp only [← bytes_append]
  generalize tokenize lang keywords (l.text ++ e) = us at htext hcode ⊢
  obtain ⟨y,hy⟩ := codeAhead_isPrefix us
  rcases through_or_inside (hy.trans htext) with ⟨x,hx,rfl⟩ | ⟨z,hz,hahead⟩
  · -- the code ahead of the first comment ends in the line
    have hcode : codeOf lang l.text = codeAhead us := by
      rw [hcode, hx, List.take_left]
    rw [hcode]
    refine ⟨fun u c v hu => not_comment_of_codeAhead hu ts,x,hx,?_⟩
    by_cases hne : x = []
    · exact .inl hne
    · exact .inr (exists_comment_behind_codeAhead hy.symm (by simp [hne]) ts)
  · -- it goes on behind the line
    have hcode : codeOf lang l.text = l.text := by
      rw [hcode, hahead, List.take_of_length_le]
      rw [List.length_append]
      omega
    rw [hcode]
    refine ⟨?_,[],by simp,.inl rfl⟩
    intro u c v hu
    rw [hu, List.append_assoc, List.cons_append] at hahead
    exact not_comment_of_codeAhead hahead ts

end Line
end EditAssist.Analysis
