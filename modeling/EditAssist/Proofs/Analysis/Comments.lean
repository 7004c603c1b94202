import EditAssist.Language.Keywords
import EditAssist.Proofs.Analysis.Brackets

/-! Block comments by lines and by tokens. The search for a comment that nothing closes goes line by
line and knows neither strings nor comments to the end of the line, and of the comments that begin in
a line it sees the first. Where openers stand at the start of block comments only, and a second comment
of a line ends in it, the search answers what the tokens say: it reports the last token if that is an
open comment, at its start. The search is followed by the text before a place and the text behind it,
so that it can stop anywhere in a line. -/
namespace EditAssist.Text

/-- What a text has of the line it starts in. -/
def firstLine (t : List Char) : List Char := t.takeWhile (· != '\n')

/-- The lines behind that one. -/
def laterLines (t : List Char) : List (List Char) := (splitOn '\n' t).tail

@[simp] lemma firstLine_nil : firstLine [] = [] := rfl

@[simp] lemma firstLine_newline (t : List Char) : firstLine ('\n' :: t) = [] := rfl

lemma firstLine_cons {c : Char} (hc : c ≠ '\n') (t : List Char) :
    firstLine (c :: t) = c :: firstLine t := by
  simp [firstLine, hc]

/-- What the text does not start with, its first line does not start with either. -/
lemma not_isPrefixOf_firstLine {part t : List Char} {c : Char} (h : ¬ part <+: c :: t) :
    ¬ part.isPrefixOf (c :: firstLine t) = true := by
  rw [List.isPrefixOf_iff_prefix]
  intro hpre
  exact h (hpre.trans ((List.prefix_cons_inj c).mpr (List.takeWhile_prefix _)))

lemma splitOn_eq_cons (t : List Char) : splitOn '\n' t = firstLine t :: laterLines t := by
  induction t with
  | nil => rfl
  | cons c t ih =>
    by_cases hc : c = '\n'
    · subst hc
      rw [laterLines, splitOn_newline, firstLine_newline, List.tail_cons]
    · rw [laterLines, splitOn_cons_of_ne hc ih, firstLine_cons hc, List.tail_cons]

@[simp] lemma laterLines_newline (t : List Char) :
    laterLines ('\n' :: t) = firstLine t :: laterLines t := by
  rw [laterLines, splitOn_newline, List.tail_cons, splitOn_eq_cons]

lemma laterLines_cons {c : Char} (hc : c ≠ '\n') (t : List Char) :
    laterLines (c :: t) = laterLines t := by
  rw [laterLines, splitOn_cons_of_ne hc (splitOn_eq_cons t), List.tail_cons]

/-- The line and column behind a text. -/
def placeBehind (a : List Char) : ℕ × ℕ := (a.count '\n' + 1, bytes (lastLine a))

lemma placeBehind_newline (a : List Char) : placeBehind (a ++ ['\n']) = ((placeBehind a).1 + 1, 0) := by
  rw [placeBehind, lastLine_concat, if_pos rfl, List.count_append]
  rfl

lemma placeBehind_concat (a : List Char) {c : Char} (hc : c ≠ '\n') :
    placeBehind (a ++ [c]) = ((placeBehind a).1, (placeBehind a).2 + c.utf8Size) := by
  rw [placeBehind, lastLine_concat, if_neg hc, List.count_append, bytes_append]
  simp [placeBehind, hc]

lemma placeBehind_pair (a : List Char) {c d : Char} (hc : c ≠ '\n') (hd : d ≠ '\n') :
    placeBehind (a ++ [c, d]) = ((placeBehind a).1, (placeBehind a).2 + c.utf8Size + d.utf8Size) := by
  rw [← List.singleton_append, ← List.append_assoc, placeBehind_concat _ hd, placeBehind_concat _ hc]

end EditAssist.Text

namespace EditAssist.Analysis
open Text Token

section Search
variable {a r : List Char} {c : Char}

/-- The answer of the search from behind `a` on, outside of comments. -/
def codeAt (a r : List Char) : Option (ℕ × ℕ) :=
  openCommentFrom ((placeBehind a).1 + 1)
    ((opensComment (placeBehind a).2 (firstLine r)).map ((placeBehind a).1, ·)) (laterLines r)

/-- The answer of the search if the rest of the line is not looked at. -/
def doneAt (a r : List Char) : Option (ℕ × ℕ) :=
  openCommentFrom ((placeBehind a).1 + 1) none (laterLines r)

/-- The answer of the search inside a comment that was opened at `place`. -/
def openAt (place : ℕ × ℕ) (a r : List Char) : Option (ℕ × ℕ) :=
  match behind ['*', '/'] (placeBehind a).2 (firstLine r) with
  | none => openCommentFrom ((placeBehind a).1 + 1) (some place) (laterLines r)
  | some (column, rest) =>
    openCommentFrom ((placeBehind a).1 + 1) ((opensComment column rest).map ((placeBehind a).1, ·))
      (laterLines r)

lemma openCommentFrom_eq_codeAt (t : List Char) :
    openCommentFrom 1 none (splitOn '\n' t) = codeAt [] t := by
  rw [splitOn_eq_cons, openCommentFrom]
  rfl

lemma doneAt_cons (hc : c ≠ '\n') : doneAt a (c :: r) = doneAt (a ++ [c]) r := by
  rw [doneAt, doneAt, laterLines_cons hc, placeBehind_concat a hc]

lemma doneAt_newline : doneAt a ('\n' :: r) = codeAt (a ++ ['\n']) r := by
  rw [doneAt, laterLines_newline, openCommentFrom, codeAt, placeBehind_newline]

/-- Outside of comments, the search goes on until a comment is opened. -/
lemma codeAt_cons (h : ¬ ['/', '*'] <+: c :: r) : codeAt a (c :: r) = codeAt (a ++ [c]) r := by
  by_cases hc : c = '\n'
  · subst hc
    rw [← doneAt_newline, codeAt, firstLine_newline]
    rfl
  · rw [codeAt, codeAt, placeBehind_concat a hc, firstLine_cons hc, laterLines_cons hc, opensComment,
      opensComment, behind, if_neg (not_isPrefixOf_firstLine h)]

/-- Inside a comment, the search goes on until it is closed. -/
lemma openAt_cons {place : ℕ × ℕ} (h : ¬ ['*', '/'] <+: c :: r) :
    openAt place a (c :: r) = openAt place (a ++ [c]) r := by
  by_cases hc : c = '\n'
  · subst hc
    rw [openAt, openAt, firstLine_newline, laterLines_newline, placeBehind_newline]
    rfl
  · rw [openAt, openAt, placeBehind_concat a hc, firstLine_cons hc, laterLines_cons hc, behind,
      if_neg (not_isPrefixOf_firstLine h)]

lemma openAt_closer (place : ℕ × ℕ) (a r : List Char) :
    openAt place a ('*' :: '/' :: r) = codeAt (a ++ ['*', '/']) r := by
  have hplace : placeBehind (a ++ ['*', '/']) = ((placeBehind a).1, (placeBehind a).2 + 2) :=
    placeBehind_pair a (by decide) (by decide)
  rw [openAt, codeAt, hplace, firstLine_cons (by decide), firstLine_cons (by decide),
    laterLines_cons (by decide), laterLines_cons (by decide)]
  rfl

lemma isSome_behind (part : List Char) (o : ℕ) (t : List Char) :
    (behind part o t).isSome = occursIn part t := by
  induction t generalizing o with
  | nil =>
    rw [behind, occursIn]
    split_ifs with h <;> simp [h]
  | cons c t ih =>
    rw [behind, occursIn]
    split_ifs with h <;> simp [h, ih]

/-- A comment is opened: if it is closed in its line, the search is done with the line. -/
lemma codeAt_opener (a r : List Char) :
    codeAt a ('/' :: '*' :: r) =
      if occursIn ['*', '/'] (firstLine r) then doneAt (a ++ ['/', '*']) r
      else openAt (placeBehind a) (a ++ ['/', '*']) r := by
  have hplace : placeBehind (a ++ ['/', '*']) = ((placeBehind a).1, (placeBehind a).2 + 2) :=
    placeBehind_pair a (by decide) (by decide)
  have hopen : opensComment (placeBehind a).2 ('/' :: '*' :: firstLine r) =
      if occursIn ['*', '/'] (firstLine r) then none else some (placeBehind a).2 := rfl
  rw [codeAt, firstLine_cons (by decide), firstLine_cons (by decide), laterLines_cons (by decide),
    laterLines_cons (by decide), hopen]
  split_ifs with h
  · rw [doneAt, hplace]
    rfl
  · have hnone : behind ['*', '/'] (placeBehind (a ++ ['/', '*'])).2 (firstLine r) = none := by
      rw [← Option.not_isSome_iff_eq_none, isSome_behind]
      exact h
    rw [openAt, hnone, hplace]
    rfl

/-- A piece in which no comment is opened, also not at its end. -/
def Clear (w r : List Char) : Prop := ∀ y, y ≠ [] → y <:+ w → ¬ ['/', '*'] <+: y ++ r

lemma codeAt_append {w : List Char} (h : Clear w r) (a : List Char) :
    codeAt a (w ++ r) = codeAt (a ++ w) r := by
  induction w generalizing a with
  | nil => rw [List.append_nil, List.nil_append]
  | cons c w ih =>
    have hrest : Clear w r := fun y hy hs => h y hy (hs.trans (List.suffix_cons c w))
    have hc : ¬ ['/', '*'] <+: c :: (w ++ r) := h _ (List.cons_ne_nil c w) List.suffix_rfl
    rw [List.cons_append, codeAt_cons hc, ih hrest]
    simp

lemma doneAt_append {w : List Char} (h : '\n' ∉ w) (a r : List Char) :
    doneAt a (w ++ r) = doneAt (a ++ w) r := by
  induction w generalizing a with
  | nil => rw [List.append_nil, List.nil_append]
  | cons c w ih =>
    rw [List.mem_cons, not_or] at h
    rw [List.cons_append, doneAt_cons (Ne.symm h.1), ih h.2]
    simp

/-- A piece with a newline takes the search to the next line. -/
lemma doneAt_append_newline {w : List Char} (h : Clear w r) (hn : '\n' ∈ w) (a : List Char) :
    doneAt a (w ++ r) = codeAt (a ++ w) r := by
  obtain ⟨u,v,rfl,hu⟩ := List.eq_append_cons_of_mem hn
  have hv : Clear v r := fun y hy hs => h y hy (hs.trans ⟨u ++ ['\n'],by simp⟩)
  rw [List.append_assoc, doneAt_append hu, List.cons_append, doneAt_newline, codeAt_append hv]
  simp

lemma not_isPrefix_closer {t : List Char} (h : ∀ x, c = '*' → t = '/' :: x → False) :
    ¬ ['*', '/'] <+: c :: t := by
  rintro ⟨x,hx⟩
  obtain ⟨rfl,rfl⟩ := List.cons.inj hx
  exact h x rfl rfl

/-- Inside a comment, the search goes through the place where the comment is closed. -/
theorem openAt_closeReach (place : ℕ × ℕ) (a t : List Char) :
    (['*', '/'] <:+ t.take (closeReach t) ∧
      openAt place a t = codeAt (a ++ t.take (closeReach t)) (t.drop (closeReach t))) ∨
    (¬ ['*', '/'] <:+ t.take (closeReach t) ∧ t.drop (closeReach t) = [] ∧
      openAt place a t = some place) := by
  fun_induction closeReach t generalizing a with
  | case1 => exact .inr ⟨by simp,rfl,rfl⟩
  | case2 t => exact .inl ⟨List.suffix_rfl,openAt_closer place a t⟩
  | case3 c t hopen ih =>
    have ih := ih (a ++ [c])
    rw [List.append_assoc, List.singleton_append] at ih
    rw [List.take_succ_cons, List.drop_succ_cons, closer_suffix_cons hopen (List.take_prefix _ t),
      openAt_cons (not_isPrefix_closer hopen)]
    exact ih

/-- A comment is closed in its line if there is a `*/` behind its opener in the line. -/
lemma occursIn_firstLine_iff (t : List Char) :
    occursIn ['*', '/'] (firstLine t) = true ↔
      ['*', '/'] <:+ t.take (closeReach t) ∧ '\n' ∉ t.take (closeReach t) := by
  fun_induction closeReach t with
  | case1 => simp [occursIn]
  | case2 t =>
    rw [firstLine_cons (by decide), firstLine_cons (by decide)]
    simp [occursIn]
  | case3 c t hopen ih =>
    rw [List.take_succ_cons, closer_suffix_cons hopen (List.take_prefix _ t)]
    by_cases hc : c = '\n'
    · subst hc
      simp [occursIn]
    · have hline := Bool.eq_false_iff.mpr (not_isPrefixOf_firstLine (not_isPrefix_closer hopen))
      rw [firstLine_cons hc, occursIn, hline, Bool.false_or, ih, List.mem_cons, not_or]
      simp [Ne.symm hc]

end Search

section Tokens
variable {lang : Language} {keywords : List String} {ts : List Token} {t : Token}

/-- A text that opens a block comment and does not close it. -/
def LeavesOpen (w : List Char) : Prop := ∃ u, w = '/' :: '*' :: u ∧ ¬ ['*', '/'] <:+: u

lemma leavesOpen_closeReach (t : List Char) :
    LeavesOpen ('/' :: '*' :: t.take (closeReach t)) ↔ ¬ ['*', '/'] <:+ t.take (closeReach t) := by
  have hiff : ['*', '/'] <:+: t.take (closeReach t) ↔ ['*', '/'] <:+ t.take (closeReach t) := by
    refine ⟨?_,List.IsSuffix.isInfix⟩
    intro h
    obtain ⟨v,hv,hsuffix⟩ := List.infix_iff_suffix_prefix.mp h
    rw [(through_closeReach t).1 v hsuffix hv] at hv
    exact hv
  rw [← hiff]
  simp [LeavesOpen]

/-- What the search makes of a block comment. -/
theorem codeAt_blockComment (a t : List Char) :
    let w := '/' :: '*' :: t.take (closeReach t)
    let r := t.drop (closeReach t)
    (LeavesOpen w ∧ r = [] ∧ codeAt a ('/' :: '*' :: t) = some (placeBehind a)) ∨
    (¬ LeavesOpen w ∧ '\n' ∉ w ∧ codeAt a ('/' :: '*' :: t) = doneAt (a ++ w) r) ∨
    (¬ LeavesOpen w ∧ codeAt a ('/' :: '*' :: t) = codeAt (a ++ w) r) := by
  intro w r
  have hw : a ++ ['/', '*'] ++ t.take (closeReach t) = a ++ w := by simp [w]
  rw [leavesOpen_closeReach, codeAt_opener]
  split_ifs with h
  · obtain ⟨hclosed,hn⟩ := (occursIn_firstLine_iff t).mp h
    refine .inr (.inl ⟨by simpa using hclosed,by simp [w, hn],?_⟩)
    rw [← hw, ← doneAt_append hn, List.take_append_drop]
  · rcases openAt_closeReach (placeBehind a) (a ++ ['/', '*']) t with ⟨hclosed,hcode⟩ | hopen
    · exact .inr (.inr ⟨by simpa using hclosed,hw ▸ hcode⟩)
    · exact .inl hopen

/-- What the search answers behind `a` if it follows tokens: the place of an open comment. -/
inductive Answers : List Char → List Token → Option (ℕ × ℕ) → Prop
  | nil {a} : Answers a [] none
  | last {a t} : LeavesOpen t.text → Answers a [t] (some (placeBehind a))
  | cons {a t ts o} : ¬ LeavesOpen t.text → Answers (a ++ t.text) ts o → Answers a (t :: ts) o

/-- Every block comment that begins before the next newline is closed before it. -/
def EndsInLine (ts : List Token) : Prop :=
  ∀ ts₁ t ts₂, ts = ts₁ ++ t :: ts₂ → ['/', '*'] <+: t.text → '\n' ∉ ts₁.flatMap (·.text) →
    '\n' ∉ t.text ∧ ¬ LeavesOpen t.text

lemma EndsInLine.head (h : EndsInLine (t :: ts)) (ht : ['/', '*'] <+: t.text) :
    '\n' ∉ t.text ∧ ¬ LeavesOpen t.text :=
  h [] t ts rfl ht List.not_mem_nil

lemma EndsInLine.tail (h : EndsInLine (t :: ts)) (ht : '\n' ∉ t.text) : EndsInLine ts := by
  intro ts₁ u ts₂ hts hu hn
  exact h (t :: ts₁) u ts₂ (by rw [hts]; rfl) hu (by simpa [ht] using hn)

/-- Tokens in which a line tells as much of comments as they do: the openers they hold are at the
start of block comments, and of two comments that begin in one line the second is closed in it. -/
structure Plain (ts : List Token) : Prop where
  starts : ∀ t ∈ ts, ['/', '*'] <:+: t.text → ['/', '*'] <+: t.text
  second : ∀ ts₀ u ts₁ t ts₂, ts = ts₀ ++ u :: (ts₁ ++ t :: ts₂) → ['/', '*'] <+: u.text →
    ['/', '*'] <+: t.text → '\n' ∉ (u :: ts₁).flatMap (·.text) → '\n' ∉ t.text ∧ ¬ LeavesOpen t.text

lemma Plain.tail (h : Plain (t :: ts)) : Plain ts := by
  refine ⟨fun u hu => h.starts u (List.mem_cons_of_mem t hu),?_⟩
  intro ts₀ u ts₁ v ts₂ hts
  exact h.second (t :: ts₀) u ts₁ v ts₂ (by rw [hts]; rfl)

lemma Plain.endsInLine (h : Plain (t :: ts)) (ht : ['/', '*'] <+: t.text) (hn : '\n' ∉ t.text) :
    EndsInLine ts := by
  intro ts₁ u ts₂ hts hu hn'
  exact h.second [] t ts₁ u ts₂ (by rw [hts]; rfl) ht hu (by simpa [hn] using hn')

lemma shape_eq_blockComment_iff (hl : lang.hasBlockComments = true) {c : Char} {t : List Char} :
    shape lang c t = .blockComment ↔ ['/', '*'] <+: c :: t := by
  refine ⟨prefix_of_shape_eq_blockComment,?_⟩
  rintro ⟨u,hu⟩
  obtain ⟨rfl,rfl⟩ := List.cons.inj hu
  cases lang <;> first | rfl | contradiction

/-- The end of a token does not cut an opener in two. -/
lemma not_cut_opener {s : Shape} {w r : List Char} (hs : s ≠ .blockComment)
    (hopens : s.Opens lang (w ++ r)) (htakes : s.Takes w r) (hpre : ¬ ['/', '*'] <+: w ++ r) :
    ¬ (['/'] <:+ w ∧ r.head? = some '*') := by
  rintro ⟨⟨x,rfl⟩,hhead⟩
  obtain ⟨r,rfl⟩ := List.head?_eq_some_iff.mp hhead
  have hslash : '/' ∈ x ++ ['/'] := by simp
  have hone : (x ++ ['/']).length = 1 → False := by
    intro hlen
    obtain rfl : x = [] := by simpa using hlen
    exact hpre ⟨r,rfl⟩
  cases s with
  | lineComment => exact absurd (htakes.2 '*' rfl) (by decide)
  | blockComment => exact hs rfl
  | quoted =>
    obtain ⟨q,u,hw,hu⟩ := htakes
    obtain ⟨v,rfl,-⟩ : EndsInQuote q u := hu.2.resolve_right (by simp)
    have hq : q = '"' ∨ q = '\'' := by
      rw [hw] at hopens
      simpa [Shape.Opens] using hopens
    have hlast : '/' = q := by
      rw [← List.cons_append] at hw
      simpa using (List.append_inj' hw rfl).2
    rw [← hlast] at hq
    exact absurd hq (by decide)
  | number => exact absurd (htakes.1 '/' hslash) (by decide)
  | word => exact absurd (htakes.1 '/' hslash) (by decide)
  | operator => exact hone htakes
  | other => exact hone htakes

/-- No comment is opened in another token, nor between it and the next. -/
lemma clear_of_takes {s : Shape} {w r : List Char} (hs : s ≠ .blockComment)
    (hopens : s.Opens lang (w ++ r)) (htakes : s.Takes w r) (hpre : ¬ ['/', '*'] <+: w ++ r)
    (h : ['/', '*'] <:+: w → ['/', '*'] <+: w) : Clear w r := by
  rintro y hy hsuffix ⟨z,hz⟩
  obtain ⟨d,y,rfl⟩ := List.exists_cons_of_ne_nil hy
  obtain ⟨rfl,hrest⟩ := List.cons.inj hz
  cases y with
  | nil =>
    have hhead : r.head? = some '*' := by
      rw [← show '*' :: z = r from hrest]
      rfl
    exact not_cut_opener hs hopens htakes hpre ⟨hsuffix,hhead⟩
  | cons e y =>
    obtain ⟨rfl,-⟩ := List.cons.inj hrest
    have hinfix : ['/', '*'] <:+: w :=
      (List.prefix_append ['/', '*'] y).isInfix.trans hsuffix.isInfix
    exact hpre ((h hinfix).trans (List.prefix_append w r))

/-- Along plain tokens the search answers what they say, outside of comments and behind one that is
closed in its line. -/
theorem answers_tokenize (hl : lang.hasBlockComments = true) {text : List Char}
    (h : Plain (tokenize lang keywords text)) (a : List Char) :
    Answers a (tokenize lang keywords text) (codeAt a text) ∧
      (EndsInLine (tokenize lang keywords text) →
        Answers a (tokenize lang keywords text) (doneAt a text)) := by
  -- both states go through the induction: a comment that is closed in its line leads from the first
  -- to the second, and the next newline leads back
  fun_induction tokenize lang keywords text generalizing a with
  | case1 => exact ⟨.nil,fun _ => .nil⟩
  | case2 c t s n word rest ih =>
    obtain ⟨ihcode,ihdone⟩ := ih h.tail (a ++ word)
    have htext : c :: t = word ++ rest := by rw [List.cons_append, List.take_append_drop]
    by_cases hs : s = .blockComment
    · obtain ⟨u,rfl,rfl,hword,hrest⟩ := exists_cut_of_blockComment hs
      change word = _ at hword
      change rest = _ at hrest
      have hopener : ['/', '*'] <+: word := ⟨_,hword.symm⟩
      have hcode := codeAt_blockComment a u
      simp only [← hword, ← hrest] at hcode
      refine ⟨?_,fun hquiet => ?_⟩
      · rcases hcode with ⟨hopen,hnil,hcode⟩ | ⟨hopen,hline,hcode⟩ | ⟨hopen,hcode⟩
        · rw [hnil, tokenize_nil, hcode]
          exact .last hopen
        · rw [hcode]
          exact .cons hopen (ihdone (h.endsInLine hopener hline))
        · rw [hcode]
          exact .cons hopen ihcode
      · obtain ⟨hline,hopen⟩ := hquiet.head hopener
        rw [htext, doneAt_append hline]
        exact .cons hopen (ihdone (hquiet.tail hline))
    · have hopener : ¬ ['/', '*'] <+: word ++ rest := by
        rwa [← htext, ← shape_eq_blockComment_iff hl]
      have hopen : ¬ LeavesOpen word := by
        rintro ⟨u,hu,-⟩
        rw [hu] at hopener
        exact hopener (List.prefix_append ['/', '*'] (u ++ rest))
      have hopens := (leads_shape lang c t).1
      have htakes : s.Takes word rest := takes_reach hopens
      rw [htext] at hopens ⊢
      have hclear := clear_of_takes hs hopens htakes hopener (h.starts _ List.mem_cons_self)
      refine ⟨?_,fun hquiet => ?_⟩
      · rw [codeAt_append hclear]
        exact .cons hopen ihcode
      · by_cases hn : '\n' ∈ word
        · rw [doneAt_append_newline hclear hn]
          exact .cons hopen ihcode
        · rw [doneAt_append hn]
          exact .cons hopen (ihdone (hquiet.tail hn))

/-- A span of a text that is a block comment and is not closed. -/
def IsOpenComment (text : List Char) (s : Span) : Prop :=
  s.category = .comment ∧ ∃ u, s.slice? text = some ('/' :: '*' :: u) ∧ ¬ ['*', '/'] <:+: u

/-- The answer is on the last token. -/
lemma Answers.of_concat {a : List Char} {o : Option (ℕ × ℕ)} (h : Answers a (ts ++ [t]) o) :
    (LeavesOpen t.text ∧ o = some (placeBehind (a ++ ts.flatMap (·.text)))) ∨
      (¬ LeavesOpen t.text ∧ o = none) := by
  induction ts generalizing a with
  | nil =>
    cases h with
    | last hopen => exact .inl ⟨hopen,by simp⟩
    | cons hopen h =>
      cases h
      exact .inr ⟨hopen,rfl⟩
  | cons u ts ih =>
    rw [List.cons_append] at h
    generalize hts : ts ++ [t] = us at h
    cases h with
    | last hopen => simp at hts
    | cons hopen h =>
      subst hts
      simpa using ih h

/-- What opens a block comment is one. -/
lemma category_of_opener (hl : lang.hasBlockComments = true) {text : List Char}
    (ht : t ∈ tokenize lang keywords text) (h : ['/', '*'] <+: t.text) : t.category = .comment := by
  fun_induction tokenize lang keywords text with
  | case1 => simp at ht
  | case2 c u s n word rest ih =>
    rcases List.mem_cons.mp ht with rfl | ht
    · have htext : c :: u = word ++ rest := by rw [List.cons_append, List.take_append_drop]
      have hs : s = .blockComment := by
        rw [shape_eq_blockComment_iff hl, htext]
        exact h.trans (List.prefix_append word rest)
      rw [hs]
      rfl
    · exact ih ht

lemma isOpenComment_spanBehind (ts : List Token) (t : Token) :
    IsOpenComment ((ts ++ [t]).flatMap (·.text)) (spanBehind ts t) ↔
      t.category = .comment ∧ LeavesOpen t.text := by
  rw [IsOpenComment, slice?_spanBehind]
  simp [spanBehind, LeavesOpen]

end Tokens

/-- Where the tokens are plain, the search by lines and the tokens agree: there is a diagnostic exactly
if the last span is a block comment that is not closed, and then it is the only one and at the start
of that span. -/
theorem commentDiagnostics_agree (lang : Language) (keywords : List String) (text : List Char)
    (hl : lang.hasBlockComments = true) (h : Plain (tokenize lang keywords text)) :
    let ss := spans (tokenize lang keywords text)
    (commentDiagnostics text ≠ [] ↔ ∃ s ∈ ss.getLast?, IsOpenComment text s) ∧
    ∀ s ∈ ss.getLast?, IsOpenComment text s →
      ∃ d, commentDiagnostics text = [d] ∧ d.kind = "unclosed_comment" ∧
        (d.line, d.column) = (LineIndex.ofText text).locate s.start := by
  intro ss
  have hanswer := (answers_tokenize hl h []).1
  rw [← openCommentFrom_eq_codeAt] at hanswer
  have htext := flatMap_text_tokenize lang keywords text
  rcases List.eq_nil_or_concat (tokenize lang keywords text) with hts | ⟨ts,t,hts⟩
  · have hss : ss = [] := by rw [show ss = spans (tokenize lang keywords text) from rfl, hts]; rfl
    rw [hts] at htext
    rw [hss, ← htext]
    exact ⟨by simp [commentDiagnostics, splitOn, openCommentFrom, opensComment, behind],by simp⟩
  · rw [List.concat_eq_append] at hts
    have hlast : ss.getLast? = some (spanBehind ts t) := by
      rw [← getLast?_spans_concat, ← hts]
    have hiff := isOpenComment_spanBehind ts t
    rw [← hts, htext] at hiff
    have hplace : (LineIndex.ofText text).locate (spanBehind ts t).start =
        placeBehind (ts.flatMap (·.text)) := by
      rw [← htext, hts, List.flatMap_append]
      exact LineIndex.locate_append _ _
    simp only [hlast, Option.mem_some_iff, exists_eq_left', forall_eq', hiff, hplace]
    rw [hts] at hanswer
    rcases hanswer.of_concat with ⟨hopen,ho⟩ | ⟨hopen,ho⟩
    · have hk : t.category = .comment := by
        have hmem : t ∈ tokenize lang keywords text := by simp [hts]
        obtain ⟨u,hu,-⟩ := hopen
        exact category_of_opener hl hmem ⟨u,hu.symm⟩
      have hd : commentDiagnostics text = [⟨(placeBehind (ts.flatMap (·.text))).1,
          (placeBehind (ts.flatMap (·.text))).2, .error, "unclosed_comment",
          "Unclosed multi-line comment"⟩] := by
        rw [commentDiagnostics, ho]
        rfl
      exact ⟨by simp [hd, hk, hopen],fun _ => ⟨_,hd,rfl,rfl⟩⟩
    · have hd : commentDiagnostics text = [] := by
        rw [commentDiagnostics, ho]
        rfl
      exact ⟨by simp [hd, hopen],fun hk => absurd hk.2 hopen⟩

/-- A comment across lines and behind it, in the line where it ends, one that is not closed. -/
theorem commentDiagnostics_agree_across :
    let text := ['/', '*', '\n', '*', '/', '/', '*']
    let ss := spans (tokenize .c [] text)
    Plain (tokenize .c [] text) ∧ ss.getLast? = some ⟨⟨5, 7⟩, .comment⟩ ∧
    ∃ d, commentDiagnostics text = [d] ∧ d.kind = "unclosed_comment" ∧
      (d.line, d.column) = (LineIndex.ofText text).locate 5 := by
  intro text ss
  have hts : tokenize .c [] text = [⟨.comment, ['/', '*', '\n', '*', '/']⟩, ⟨.comment, ['/', '*']⟩] := by
    decide +kernel
  have hss : ss.getLast? = some ⟨⟨5, 7⟩, .comment⟩ := by
    rw [show ss = spans (tokenize .c [] text) from rfl, hts]
    rfl
  have hplain : Plain (tokenize .c [] text) := by
    rw [hts]
    constructor
    · intro t ht _
      rcases List.mem_pair.mp ht with rfl | rfl <;> exact List.prefix_append ['/', '*'] _
    · intro ts₀ u ts₁ t ts₂ h _ _ hn
      cases ts₀ with
      | nil =>
        obtain ⟨rfl,-⟩ := List.cons.inj h
        simp at hn
      | cons v ts₀ =>
        have hlen := congrArg List.length h
        simp only [List.length_cons, List.length_append, List.length_nil] at hlen
        omega
  have hopen : IsOpenComment text ⟨⟨5, 7⟩, .comment⟩ := ⟨rfl,[],rfl,by decide⟩
  exact ⟨hplain,hss,(commentDiagnostics_agree .c [] text rfl hplain).2 _ hss hopen⟩

/-- In a string, the search takes for the opener of a comment what the tokens know to be none; and
behind a comment in the same line it misses an opener. -/
theorem commentDiagnostics_disagree :
    (commentDiagnostics ['"', '/', '*', '"'] =
        [⟨1, 1, .error, "unclosed_comment", "Unclosed multi-line comment"⟩] ∧
      ∀ s ∈ (spans (tokenize .kotlin Language.kotlin.keywords ['"', '/', '*', '"'])).getLast?,
        ¬ IsOpenComment ['"', '/', '*', '"'] s) ∧
    commentDiagnostics ['/', '*', '*', '/', '/', '*'] = [] ∧
      ∃ s ∈ (spans (tokenize .kotlin Language.kotlin.keywords
          ['/', '*', '*', '/', '/', '*'])).getLast?,
        IsOpenComment ['/', '*', '*', '/', '/', '*'] s := by
  have hstring : (spans (tokenize .kotlin Language.kotlin.keywords ['"', '/', '*', '"'])).getLast? =
      some ⟨⟨0, 4⟩, .string⟩ := by decide +kernel
  have hsecond : (spans (tokenize .kotlin Language.kotlin.keywords
      ['/', '*', '*', '/', '/', '*'])).getLast? = some ⟨⟨4, 6⟩, .comment⟩ := by decide +kernel
  refine ⟨⟨by decide,?_⟩,by decide,_,hsecond,rfl,[],rfl,by decide⟩
  rintro s hs ⟨hk,-⟩
  rw [hstring, Option.mem_some_iff] at hs
  rw [← hs] at hk
  contradiction

end EditAssist.Analysis
