import EditAssist.Proofs.Analysis.Correspondence
import EditAssist.Proofs.Analysis.Kinds
import EditAssist.Proofs.Diagnostic.Order
import EditAssist.Proofs.Token.Restart

/-! Newlines before a text. A newline at the start is a blank line and a token of its own, so it
moves every line, token and offset along, and with them every diagnostic by one line; only the one
on a missing header stays, which stands at the top and before all others. -/
namespace EditAssist

/-- A diagnostic that stands a number of lines further down. -/
def Diagnostic.lower (k : ℕ) (d : Diagnostic) : Diagnostic := { d with line := d.line + k }

/-- Diagnostics further down, but for the one on a missing header, which stays. -/
def Diagnostic.sink (k : ℕ) (d : Diagnostic) : Diagnostic :=
  if d.kind = "missing_include" then d else d.lower k

/-- A line that lies further back by a number of bytes. -/
def Text.Line.shift (n : ℕ) (l : Text.Line) : Text.Line := ⟨l.start + n, l.raw⟩

end EditAssist

namespace EditAssist.Diagnostic

lemma sink_of_kind_ne {d : Diagnostic} (h : d.kind ≠ "missing_include") (k : ℕ) :
    d.sink k = d.lower k :=
  if_neg h

@[simp] lemma sink_missingInclude (k : ℕ) (lang : Language) :
    (Analysis.missingInclude lang).sink k = Analysis.missingInclude lang :=
  if_pos rfl

lemma sink_zero : sink 0 = id := by
  funext d
  rw [sink]
  split_ifs <;> rfl

lemma sink_sink (k l : ℕ) (d : Diagnostic) : (d.sink k).sink l = d.sink (k + l) := by
  by_cases h : d.kind = "missing_include"
  · simp [sink, h]
  · simp [sink, h, lower, Nat.add_assoc]

lemma key_sink_eq_iff (k : ℕ) (d e : Diagnostic) : (d.sink k).key = (e.sink k).key ↔ d.key = e.key := by
  by_cases hd : d.kind = "missing_include"
  · by_cases he : e.kind = "missing_include"
    · simp [sink, hd, he]
    · simp [sink, hd, he, key, lower, Ne.symm he]
  · by_cases he : e.kind = "missing_include"
    · simp [sink, hd, he, key, lower]
    · simp [sink, hd, he, key, lower]

lemma before_lower (k : ℕ) (d e : Diagnostic) : before (d.lower k) (e.lower k) = before d e := by
  rw [Bool.eq_iff_iff, before_iff, before_iff]
  simp only [lower]
  omega

end EditAssist.Diagnostic

namespace EditAssist.Text

lemma layout_shift (start n : ℕ) (ps : List (List Char)) :
    layout (start + n) ps = (layout start ps).map (Line.shift n) := by
  induction ps generalizing start with
  | nil => rfl
  | cons p ps ih =>
    rw [layout, layout, List.map_cons, ← ih, Nat.add_right_comm start n, Nat.add_right_comm _ n]
    rfl

lemma lines_newline (t : List Char) :
    lines ('\n' :: t) = ⟨0, []⟩ :: (lines t).map (Line.shift 1) := by
  rw [lines, lines, splitOn_newline, layout, ← layout_shift]
  rfl

lemma endedLines_newline (t : List Char) : endedLines ('\n' :: t) = [] :: endedLines t := by
  obtain ⟨p,ps,hps⟩ := List.exists_cons_of_ne_nil (splitBy_ne_nil (· == '\n') t)
  have hsplit : splitOn '\n' t = p :: ps := hps
  simp [endedLines, splitOn_newline, hsplit, dropReturn]

end EditAssist.Text

namespace EditAssist.Analysis
open Text

section Setting

lemma context_newline (lang : Language) (t : List Char) :
    Context.ofText lang ('\n' :: t) = Context.ofText lang t := by
  have hblank : (trim []).isEmpty = true := rfl
  have hdepth : depthFrom 0 0 ('\n' :: t) = depthFrom 0 0 t := by simp [depthFrom]
  simp [Context.ofText, endedLines_newline, hblank, hdepth]

lemma hasIoInclude_newline (lang : Language) (t : List Char) :
    hasIoInclude lang ('\n' :: t) = hasIoInclude lang t := by
  have hblank : startsWith (trimStart []) "#include" = false := rfl
  simp [hasIoInclude, endedLines_newline, hblank]

/-- A blank line changes nothing of what the pass knows. -/
lemma settingOf_newline (lang : Language) (rules : List Rule) (t : List Char) :
    settingOf lang rules ('\n' :: t) = settingOf lang rules t := by
  rw [settingOf, settingOf, context_newline, hasIoInclude_newline]

end Setting

section Pass
variable {s : Setting}

lemma kind_ne_of_mem_checkLine {lang : Language} {context : Context} {line : List Char} {f : Finding}
    (h : f ∈ checkLine lang context line) : f.kind ≠ "missing_include" := by
  intro hf
  have hmem := kind_mem_checkKinds h
  rw [hf] at hmem
  exact absurd hmem (by decide)

/-- On a line, only the header that is wanting has a diagnostic of its kind. -/
lemma of_mem_lineDiagnostics (hr : ∀ r ∈ s.rules, r.kind ≠ "missing_include") {number : ℕ}
    {line : List Char} {d : Diagnostic} (h : d ∈ lineDiagnostics s number line)
    (hd : d.kind = "missing_include") : s.wantsInclude = true ∧ d = missingInclude s.lang := by
  rcases List.mem_append.mp h with h | h
  · rcases List.mem_append.mp h with h | h
    · obtain ⟨hw,h⟩ := List.mem_ite_nil_right.mp h
      exact ⟨hw,List.mem_singleton.mp h⟩
    · obtain ⟨r,hmem,h⟩ := List.mem_flatMap.mp h
      obtain ⟨column,-,rfl⟩ := List.mem_map.mp h
      exact absurd hd (hr r hmem)
  · obtain ⟨f,hf,rfl⟩ := List.mem_map.mp h
    exact absurd hd (kind_ne_of_mem_checkLine hf)

/-- Further down, a line has the same diagnostics further down. -/
theorem lineDiagnostics_add (hr : ∀ r ∈ s.rules, r.kind ≠ "missing_include") (k number : ℕ)
    (line : List Char) :
    lineDiagnostics s (number + k) line = (lineDiagnostics s number line).map (Diagnostic.sink k) := by
  have hinclude : (if s.wantsInclude then [missingInclude s.lang] else []) =
      (if s.wantsInclude then [missingInclude s.lang] else []).map (Diagnostic.sink k) := by
    split_ifs <;> simp
  have hrules : s.rules.flatMap (ruleDiagnostics (number + k) line) =
      (s.rules.flatMap (ruleDiagnostics number line)).map (Diagnostic.sink k) := by
    rw [List.map_flatMap]
    apply List.flatMap_congr
    intro r hmem
    rw [ruleDiagnostics, ruleDiagnostics, List.map_map]
    apply List.map_congr_left
    intro column _
    rw [Function.comp_apply, Diagnostic.sink_of_kind_ne (hr r hmem)]
    rfl
  have hchecks : (checkLine s.lang s.context line).map (·.at (number + k)) =
      ((checkLine s.lang s.context line).map (·.at number)).map (Diagnostic.sink k) := by
    rw [List.map_map]
    apply List.map_congr_left
    intro f hf
    exact (Diagnostic.sink_of_kind_ne (d := f.at number) (kind_ne_of_mem_checkLine hf) k).symm
  rw [lineDiagnostics, lineDiagnostics, List.map_append, List.map_append, ← hinclude, ← hrules,
    ← hchecks]

/-- Moved spans cover moved offsets as before. -/
lemma insideComment_shift (n : ℕ) (ss : List Span) (o : ℕ) :
    insideComment (ss.map (Span.shift n)) (o + n) = insideComment ss o := by
  have hstop : ((fun s : Span => decide (s.stop ≤ o + n)) ∘ Span.shift n) =
      fun s : Span => decide (s.stop ≤ o) := by
    funext s
    simp [Span.shift]
  rw [insideComment, insideComment, List.dropWhile_map, hstop]
  cases ss.dropWhile (·.stop ≤ o) with
  | nil => rfl
  | cons t ss => simp [startsInComment, Span.shift]

/-- The pass over the lines of a text behind a newline. -/
theorem pass_newline (hr : ∀ r ∈ s.rules, r.kind ≠ "missing_include") (lang : Language)
    (keywords : List String) (t : List Char) :
    passFrom s 1 (Token.spans (Token.tokenize lang keywords ('\n' :: t))) (lines ('\n' :: t)) =
      (passFrom s 1 (Token.spans (Token.tokenize lang keywords t)) (lines t)).map
        (Diagnostic.sink 1) := by
  have hspans : Token.spans (Token.tokenize lang keywords ('\n' :: t)) =
      ⟨⟨0, 1⟩, .normal⟩ :: (Token.spans (Token.tokenize lang keywords t)).map (Span.shift 1) := by
    rw [Token.tokenize_newline, Token.spans, Token.spansFrom_cons, ← Token.spansFrom_eq_map_shift]
    rfl
  have hpair := pairwise_lines ('\n' :: t)
  rw [lines_newline] at hpair ⊢
  obtain ⟨hle,hpair⟩ := List.pairwise_cons.mp hpair
  have hidle : isIdle s.lang (Line.text ⟨0, []⟩) = true := rfl
  rw [hspans, passFrom_cons 1 hle, hidle, Bool.or_true, if_pos rfl, List.nil_append]
  refine passFrom_correspond (lineDiagnostics_add hr 1) ?_ (pairwise_lines t) hpair 1
  rw [List.forall₂_map_right_iff]
  apply List.forall₂_same.mpr
  intro l _
  refine ⟨rfl,?_⟩
  rw [← insideComment_shift 1 _ l.start]
  exact insideComment_cons_of_le (Nat.le_add_left 1 l.start)

end Pass

section Offsets

/-- An offset behind a newline is one line further down than without it. -/
lemma locate_newline (a b : List Char) :
    (LineIndex.ofText ('\n' :: (a ++ b))).locate (bytes a + 1) =
      (((LineIndex.ofText (a ++ b)).locate (bytes a)).1 + 1,
        ((LineIndex.ofText (a ++ b)).locate (bytes a)).2) := by
  have hbytes : bytes a + 1 = bytes ('\n' :: a) := by
    rw [bytes_cons, Nat.add_comm]
    rfl
  have hlast : lastLine ('\n' :: a) = lastLine a := lastLine_newline [] a
  rw [hbytes, ← List.cons_append, LineIndex.locate_append, LineIndex.locate_append,
    List.count_cons_self, hlast]

lemma codeFrom_add (start n : ℕ) (ts : List Token) :
    codeFrom (start + n) ts = (codeFrom start ts).map fun p => (p.1 + n, p.2) := by
  have hplaced : ∀ (start : ℕ) (t : List Char),
      placed (start + n) t = (placed start t).map fun p => (p.1 + n, p.2) := by
    intro start t
    induction t generalizing start with
    | nil => rfl
    | cons c t ih => rw [placed, placed, List.map_cons, ← ih, Nat.add_right_comm]
  induction ts generalizing start with
  | nil => rfl
  | cons t ts ih =>
    simp only [codeFrom, Nat.add_right_comm start n, ih, hplaced]
    split_ifs <;> simp

lemma brackets_newline (ts : List Token) :
    brackets (⟨.normal, ['\n']⟩ :: ts) = (brackets ts).map fun p => (p.1 + 1, p.2) := by
  have hcode : codeFrom 0 (⟨.normal, ['\n']⟩ :: ts) =
      (0, '\n') :: (codeFrom 0 ts).map fun p => (p.1 + 1, p.2) := by
    rw [← codeFrom_add]
    rfl
  have hnewline : (isOpener '\n' || isCloser '\n') = false := by decide
  rw [brackets, hcode, List.filter_cons, brackets, List.filter_map]
  simp only [hnewline, Bool.false_eq_true, if_false]
  rfl

lemma openStringsFrom_add (start n : ℕ) (ts : List Token) :
    openStringsFrom (start + n) ts = (openStringsFrom start ts).map (· + n) := by
  induction ts generalizing start with
  | nil => rfl
  | cons t ts ih =>
    simp only [openStringsFrom, Nat.add_right_comm start n, ih]
    split_ifs <;> simp

lemma openStringsFrom_newline (ts : List Token) :
    openStringsFrom 0 (⟨.normal, ['\n']⟩ :: ts) = (openStringsFrom 0 ts).map (· + 1) := by
  rw [← openStringsFrom_add]
  rfl

/-- The comment that is open behind some lines, if these stand further down. -/
lemma openCommentFrom_add (number k : ℕ) (opened : Option (ℕ × ℕ)) (ps : List (List Char)) :
    openCommentFrom (number + k) (opened.map fun p => (p.1 + k, p.2)) ps =
      (openCommentFrom number opened ps).map fun p => (p.1 + k, p.2) := by
  have hopen : ∀ (number : ℕ) (column : Option ℕ), column.map (number + k, ·) =
      (column.map (number, ·)).map fun p => (p.1 + k, p.2) := by
    intro number column
    cases column <;> rfl
  fun_induction openCommentFrom number opened ps with
  | case1 => rfl
  | case2 number t ts ih =>
    rw [← ih, Option.map_none, openCommentFrom, Nat.add_right_comm, hopen]
  | case3 number place t ts hb ih =>
    rw [← ih, Option.map_some, openCommentFrom, hb, Nat.add_right_comm]
  | case4 number place t ts column rest hb ih =>
    rw [← ih, ← hopen, Option.map_some, openCommentFrom, hb, Nat.add_right_comm]

lemma commentDiagnostics_newline (t : List Char) :
    commentDiagnostics ('\n' :: t) = (commentDiagnostics t).map (Diagnostic.lower 1) := by
  have hopen : openCommentFrom 1 none (splitOn '\n' ('\n' :: t)) =
      (openCommentFrom 1 none (splitOn '\n' t)).map fun p => (p.1 + 1, p.2) := by
    rw [← openCommentFrom_add, splitOn_newline]
    rfl
  rw [commentDiagnostics, commentDiagnostics, hopen]
  cases openCommentFrom 1 none (splitOn '\n' t) <;> rfl

end Offsets

section Whole
variable {lang : Language} {keywords : List String} {t : List Char}

lemma bracketDiagnostics_newline :
    bracketDiagnostics (LineIndex.ofText ('\n' :: t)) (Token.tokenize lang keywords ('\n' :: t)) =
      (bracketDiagnostics (LineIndex.ofText t) (Token.tokenize lang keywords t)).map
        (Diagnostic.lower 1) := by
  apply bracketDiagnostics_correspond (g := fun p => (p.1 + 1, p.2))
  rw [Token.tokenize_newline, brackets_newline, List.forall₂_map_right_iff]
  apply List.forall₂_same.mpr
  rintro ⟨o,c⟩ hm
  obtain ⟨a,b,hab,ho⟩ := exists_parts_of_mem_codeFrom (List.mem_filter.mp hm).1
  rw [Token.flatMap_text_tokenize] at hab
  rw [Nat.zero_add] at ho
  subst ho hab
  exact ⟨locate_newline a (c :: b),rfl⟩

lemma stringDiagnostics_newline :
    stringDiagnostics (LineIndex.ofText ('\n' :: t)) (Token.tokenize lang keywords ('\n' :: t)) =
      (stringDiagnostics (LineIndex.ofText t) (Token.tokenize lang keywords t)).map
        (Diagnostic.lower 1) := by
  apply stringDiagnostics_correspond (g := fun p => (p.1 + 1, p.2))
  rw [Token.tokenize_newline, openStringsFrom_newline, List.forall₂_map_right_iff]
  apply List.forall₂_same.mpr
  intro o hm
  obtain ⟨before,u,after,hts,-,ho⟩ := exists_token_of_mem_openStringsFrom hm
  have ht : t = before.flatMap (·.text) ++ (u :: after).flatMap (·.text) := by
    rw [← List.flatMap_append, ← hts, Token.flatMap_text_tokenize]
  rw [Nat.zero_add] at ho
  subst ho
  rw [ht]
  exact locate_newline _ _

/-- The diagnostics on a text as a whole are never on a missing header. -/
lemma kind_ne_of_mem_whole (index : LineIndex) (ts : List Token) (t : List Char) (d : Diagnostic)
    (h : d ∈ bracketDiagnostics index ts ∨ d ∈ stringDiagnostics index ts ∨
      d ∈ commentDiagnostics t) : d.kind ≠ "missing_include" := by
  intro hd
  have hmem := kind_mem_wholeKinds h
  rw [hd] at hmem
  exact absurd hmem (by decide)

lemma map_lower_eq_map_sink {ds : List Diagnostic} (h : ∀ d ∈ ds, d.kind ≠ "missing_include")
    (k : ℕ) : ds.map (Diagnostic.lower k) = ds.map (Diagnostic.sink k) :=
  List.map_congr_left fun d hd => (Diagnostic.sink_of_kind_ne (h d hd) k).symm

/-- A newline before a text lowers all that is found by a line. -/
theorem found_newline {rules : List Rule} (hr : ∀ r ∈ rules, r.kind ≠ "missing_include") :
    found lang keywords rules ('\n' :: t) =
      (found lang keywords rules t).map (Diagnostic.sink 1) := by
  have hwhole := kind_ne_of_mem_whole (LineIndex.ofText t) (Token.tokenize lang keywords t) t
  simp only [found, List.map_append, settingOf_newline, bracketDiagnostics_newline,
    stringDiagnostics_newline, commentDiagnostics_newline]
  rw [pass_newline hr, map_lower_eq_map_sink fun d hd => hwhole d (.inl hd),
    map_lower_eq_map_sink fun d hd => hwhole d (.inr (.inl hd)),
    map_lower_eq_map_sink fun d hd => hwhole d (.inr (.inr hd))]
  split_ifs <;> rfl

theorem found_replicate_newline {rules : List Rule} (hr : ∀ r ∈ rules, r.kind ≠ "missing_include")
    (k : ℕ) :
    found lang keywords rules (List.replicate k '\n' ++ t) =
      (found lang keywords rules t).map (Diagnostic.sink k) := by
  induction k with
  | zero => rw [Diagnostic.sink_zero, List.map_id, List.replicate_zero, List.nil_append]
  | succ k ih =>
    rw [List.replicate_succ, List.cons_append, found_newline hr, ih, List.map_map]
    simp only [Function.comp_def, Diagnostic.sink_sink]

end Whole

section Header
variable {lang : Language} {keywords : List String} {rules : List Rule} {t : List Char}

/-- A pass that wants a header says so first, if it says anything. -/
lemma passFrom_eq_cons {s : Setting} (hw : s.wantsInclude = true) (number : ℕ) (ss : List Span)
    (ls : List Line) (hne : passFrom s number ss ls ≠ []) :
    ∃ rest, passFrom s number ss ls = missingInclude s.lang :: rest := by
  fun_induction passFrom s number ss ls with
  | case1 => contradiction
  | case2 number ss l ls ss' rest hidle ih => exact ih hne
  | case3 number ss l ls ss' rest hidle ih =>
    rw [lineDiagnostics, if_pos hw]
    exact ⟨_,rfl⟩

/-- A diagnostic on a missing header is found before all others, and is that of the language. -/
theorem found_eq_cons_of_mem (hr : ∀ r ∈ rules, r.kind ≠ "missing_include") {d : Diagnostic}
    (h : d ∈ found lang keywords rules t) (hd : d.kind = "missing_include") :
    d = missingInclude lang ∧ ∃ rest, found lang keywords rules t = missingInclude lang :: rest := by
  have hpass := mem_pass_of_mem_found h (by rw [hd]; decide)
  obtain ⟨i,l,-,hline⟩ := exists_line_of_mem_passFrom _ _ _ _ d hpass
  obtain ⟨hw,rfl⟩ := of_mem_lineDiagnostics hr hline hd
  obtain ⟨rest,hrest⟩ := passFrom_eq_cons hw _ _ _ (List.ne_nil_of_mem hpass)
  refine ⟨rfl,?_⟩
  rw [found, hrest]
  exact ⟨_,rfl⟩

end Header

end EditAssist.Analysis

namespace EditAssist
open Analysis

namespace Diagnostic

/-- Diagnostics of other kinds are put in order before they are lowered or after. -/
lemma mergeSort_map_sink {ds : List Diagnostic} (h : ∀ d ∈ ds, d.kind ≠ "missing_include") (k : ℕ) :
    (ds.map (sink k)).mergeSort before = (ds.mergeSort before).map (lower k) := by
  rw [← map_lower_eq_map_sink h]
  exact mergeSort_map_before fun d _ e _ => (before_lower k d e).symm

lemma distinct_map_sink (k : ℕ) (ds : List Diagnostic) :
    distinct (ds.map (sink k)) = (distinct ds).map (sink k) :=
  distinctFrom_map (key_sink_eq_iff k) (by simp) ds

/-- A missing header stays first, whether the rest is lowered before it is put in order or after. -/
theorem exists_arrange_map_sink {lang : Language} {ds : List Diagnostic}
    (hline : ∀ d ∈ ds, 1 ≤ d.line)
    (hown : ∀ d ∈ ds, d.kind = "missing_include" →
      d = missingInclude lang ∧ ∃ rest, ds = missingInclude lang :: rest) :
    ∃ own rest : List Diagnostic, (own = [] ∨ own = [missingInclude lang]) ∧
      (∀ d ∈ rest, d.kind ≠ "missing_include") ∧
      ∀ k, arrange (ds.map (sink k)) = own ++ rest.map (lower k) := by
  by_cases h : ∃ d ∈ ds, d.kind = "missing_include"
  · obtain ⟨d,hd,hkind⟩ := h
    obtain ⟨rfl,l,rfl⟩ := hown d hd hkind
    set m := missingInclude lang
    set rest := distinctFrom (Std.HashSet.insert ∅ m.key) l
    have hdistinct : distinct (m :: l) = m :: rest := by simp [distinct, distinctFrom, rest]
    have hmem : ∀ e ∈ rest, e ∈ l := fun e he => mem_of_mem_distinctFrom he
    have hrest : ∀ e ∈ rest, e.kind ≠ "missing_include" := by
      intro e he hk
      obtain ⟨rfl,-⟩ := hown e (List.mem_cons_of_mem _ (hmem e he)) hk
      exact key_not_mem_of_mem_distinctFrom he (by simp)
    refine ⟨[m],rest.mergeSort before,.inr rfl,?_,?_⟩
    · intro e he
      exact hrest e (List.mem_mergeSort.mp he)
    · intro k
      have hfirst : ∀ e ∈ rest.map (sink k), before m e = true := by
        intro e he
        obtain ⟨d,hd,rfl⟩ := List.mem_map.mp he
        have hd₁ := hline d (List.mem_cons_of_mem _ (hmem d hd))
        have hm : m.line = 1 ∧ m.severity.rank = 0 := ⟨rfl,rfl⟩
        rw [before_iff, sink_of_kind_ne (hrest d hd), lower]
        simp only [hm]
        omega
      rw [arrange, distinct_map_sink, hdistinct, List.map_cons, sink_missingInclude,
        mergeSort_cons_of_before hfirst, mergeSort_map_sink hrest]
      rfl
  · refine ⟨[],arrange ds,.inl rfl,?_,?_⟩
    · intro d hd hk
      exact h ⟨d,mem_of_mem_arrange hd,hk⟩
    · intro k
      rw [arrange, distinct_map_sink, mergeSort_map_sink]
      · rfl
      · intro d hd hk
        exact h ⟨d,mem_of_mem_distinctFrom hd,hk⟩

end Diagnostic

/-- Newlines before a text lower its diagnostics by as many lines and change nothing else, their
order included. Only the diagnostic on a missing header, if there is one, stays where it is: first
of all, in the first line and column. -/
theorem analyze_replicate_newline (cat : Catalog) (lang : Language) (k : ℕ) (text : List Char)
    (hr : ∀ r ∈ cat.rules lang, r.kind ≠ "missing_include") :
    ∃ own rest : List Diagnostic, own.length ≤ 1 ∧
      (∀ d ∈ own, d.kind = "missing_include" ∧ d.line = 1 ∧ d.column = 0) ∧
      (∀ d ∈ rest, d.kind ≠ "missing_include") ∧
      cat.analyze lang text = own ++ rest ∧
      cat.analyze lang (List.replicate k '\n' ++ text) =
        own ++ rest.map fun d => { d with line := d.line + k } := by
  have hline : ∀ d ∈ found lang (cat.keywords lang) (cat.rules lang) text, 1 ≤ d.line := by
    intro d hd
    exact (pointsInto_of_mem_found hd).spec.1
  obtain ⟨own,rest,hown,hrest,harrange⟩ := Diagnostic.exists_arrange_map_sink hline
    fun d hd hk => found_eq_cons_of_mem hr hd hk
  have hanalyze : ∀ k, cat.analyze lang (List.replicate k '\n' ++ text) =
      own ++ rest.map (Diagnostic.lower k) := by
    intro k
    rw [Catalog.analyze, analyze_eq_arrange, found_replicate_newline hr, harrange]
  have htext : cat.analyze lang text = own ++ rest.map (Diagnostic.lower 0) := hanalyze 0
  refine ⟨own,rest,?_,?_,hrest,?_,hanalyze k⟩
  · rcases hown with rfl | rfl <;> simp
  · rcases hown with rfl | rfl <;> simp [missingInclude]
  · rw [htext, show Diagnostic.lower 0 = id from rfl, List.map_id]

lemma Rule.kind_of_make {kind pattern message : String} {severity : Severity} {r : Rule}
    (h : make kind pattern message severity = .ok r) : r.kind = kind := by
  unfold make at h
  cases hp : Pattern.compile pattern with
  | error fault => simp [hp, Except.map] at h
  | ok p =>
    simp only [hp, Except.map, Except.ok.injEq] at h
    simp [← h]

lemma Rule.mem_of_mem_compiled {rs : List (Except Pattern.Fault Rule)} {r : Rule}
    (h : r ∈ compiled rs) : .ok r ∈ rs := by
  obtain ⟨e,he,ho⟩ := List.mem_filterMap.mp h
  cases e with
  | error fault => cases ho
  | ok p =>
    cases ho
    exact he

/-- Two blank lines before a text that lacks a header, with the built-in rules. -/
theorem analyze_replicate_newline_builtin :
    (∀ r ∈ Catalog.builtin.rules .c, r.kind ≠ "missing_include") ∧
    ∃ own rest : List Diagnostic, own.length ≤ 1 ∧
      (∀ d ∈ own, d.kind = "missing_include" ∧ d.line = 1 ∧ d.column = 0) ∧
      (∀ d ∈ rest, d.kind ≠ "missing_include") ∧
      Catalog.builtin.analyze .c ['x', ')'] = own ++ rest ∧
      Catalog.builtin.analyze .c (List.replicate 2 '\n' ++ ['x', ')']) =
        own ++ rest.map fun d => { d with line := d.line + 2 } := by
  have hr : ∀ r ∈ Catalog.builtin.rules .c, r.kind ≠ "missing_include" := by
    have hrules : Catalog.builtin.rules .c = Rule.cRules := by
      rw [Catalog.rules, Catalog.builtin, Catalog.entry_tabulate]
      rfl
    rw [hrules]
    intro r hr
    rw [Rule.kind_of_make (List.mem_singleton.mp (Rule.mem_of_mem_compiled hr)).symm]
    decide
  exact ⟨hr,analyze_replicate_newline Catalog.builtin .c 2 ['x', ')'] hr⟩

end EditAssist
