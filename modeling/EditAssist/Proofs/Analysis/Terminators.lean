import EditAssist.Proofs.Analysis.Kinds
import EditAssist.Proofs.Analysis.LineCode
import EditAssist.Proofs.Diagnostic.Order

/-! Where a terminator is found missing. The check looks at the code of a line, which ends where the
first comment of the line begins. So a line whose last character outside comments terminates a
statement is left alone if no comment of the line begins before that character; what follows a
comment in the middle of a statement is not looked at. -/
namespace EditAssist.Text
open Unicode

/-- What is left of a text ends in its last character that is not blank. -/
lemma getLast?_trim (u : List Char) {c : Char} (hc : isBlank c = false) {v : List Char}
    (hv : ∀ d ∈ v, isBlank d = true) : (trim (u ++ c :: v)).getLast? = some c := by
  have hstart : ∃ u', trimStart (u ++ c :: v) = u' ++ c :: v := by
    rw [trimStart, List.dropWhile_append]
    split_ifs
    · exact ⟨[],by simp [hc]⟩
    · exact ⟨_,rfl⟩
  obtain ⟨u',hu'⟩ := hstart
  have hdrop : (v.reverse ++ c :: u'.reverse).dropWhile isBlank = c :: u'.reverse := by
    rw [List.dropWhile_append_of_pos (by simpa using hv), List.dropWhile_cons, if_neg (by simp [hc])]
  rw [trim, hu', trimEnd]
  simp [hdrop]

end EditAssist.Text

namespace EditAssist.Analysis
open Text Token Unicode

lemma isBlank_of_isTerminator {c : Char} (h : isTerminator c = true) : isBlank c = false := by
  simp only [isTerminator, Bool.or_eq_true, decide_eq_true_eq] at h
  rcases h with ((rfl | rfl) | rfl) | rfl <;> decide

/-- Code that ends in a terminator, blanks apart, needs no other. -/
lemma needsNoTerminator_of_last (u : List Char) {c : Char} (hc : isTerminator c = true) {v : List Char}
    (hv : ∀ d ∈ v, isBlank d = true) : needsNoTerminator (trim (u ++ c :: v)) = true := by
  simp [needsNoTerminator, getLast?_trim u (isBlank_of_isTerminator hc) hv, hc]

lemma exists_parts_of_placed_eq {start o : ℕ} {t : List Char} {c : Char} {ps qs : List (ℕ × Char)}
    (h : placed start t = ps ++ (o, c) :: qs) :
    ∃ u v, t = u ++ c :: v ∧ o = start + bytes u ∧ qs = placed (start + bytes (u ++ [c])) v := by
  induction ps generalizing start t with
  | nil =>
    cases t with
    | nil => simp [placed] at h
    | cons d t =>
      simp only [placed, List.nil_append, List.cons.injEq, Prod.mk.injEq] at h
      obtain ⟨⟨rfl,rfl⟩,rfl⟩ := h
      exact ⟨[],t,rfl,by simp,by simp⟩
  | cons p ps ih =>
    cases t with
    | nil => simp [placed] at h
    | cons d t =>
      rw [placed, List.cons_append] at h
      obtain ⟨u,v,rfl,rfl,rfl⟩ := ih (List.cons.inj h).2
      exact ⟨d :: u,v,rfl,by simp [Nat.add_assoc],by simp [Nat.add_assoc]⟩

/-- Whether an offset lies in a comment. -/
def inComment (ss : List Span) (o : ℕ) : Bool := ss.any fun s => s.category = .comment && s.contains o

lemma inComment_iff {ss : List Span} {o : ℕ} :
    inComment ss o = true ↔ ∃ s ∈ ss, s.category = .comment ∧ s.contains o = true := by
  simp [inComment]

/-- The last character of a line that is neither blank nor in a comment, with its offset in the
text. -/
def lastCode? (ss : List Span) (l : Line) : Option (ℕ × Char) :=
  (placed l.start l.text).reverse.find? fun (o, c) => !isBlank c && !inComment ss o

/-- Behind the last such character, all is blank or in a comment. -/
lemma exists_parts_of_lastCode? {ss : List Span} {l : Line} {o : ℕ} {c : Char}
    (h : lastCode? ss l = some (o, c)) :
    ∃ u v, l.text = u ++ c :: v ∧ o = l.start + bytes u ∧ inComment ss o = false ∧
      ∀ v₁ d v₂, v = v₁ ++ d :: v₂ →
        isBlank d = true ∨ inComment ss (l.start + bytes (u ++ c :: v₁)) = true := by
  obtain ⟨hc,qs,ps,hparts,hqs⟩ := List.find?_eq_some_iff_append.mp h
  have hplaced : placed l.start l.text = ps.reverse ++ (o, c) :: qs.reverse := by
    rw [← List.reverse_reverse (placed l.start l.text), hparts]
    simp
  obtain ⟨u,v,htext,ho,hv⟩ := exists_parts_of_placed_eq hplaced
  simp only [Bool.and_eq_true, Bool.not_eq_true'] at hc
  refine ⟨u,v,htext,ho,hc.2,?_⟩
  rintro v₁ d v₂ rfl
  have hmem : (l.start + bytes (u ++ c :: v₁), d) ∈ qs := by
    rw [← List.mem_reverse, hv, placed_append]
    simp [placed, Nat.add_assoc]
  simpa [or_iff_not_imp_left] using hqs _ hmem

/-- The code of a line ends in the last character outside comments, blanks apart, if no comment of
the line begins before that character. -/
theorem exists_code_of_lastCode? {lang : Language} {keywords : List String} {text : List Char}
    {l : Line} (hl : l ∈ lines text)
    (hstart : ∀ s ∈ spans (tokenize lang keywords text), ¬ (s.start < l.start ∧ l.start < s.stop))
    {o : ℕ} {c : Char} (hlast : lastCode? (spans (tokenize lang keywords text)) l = some (o, c))
    (hbefore : ∀ s ∈ spans (tokenize lang keywords text), s.category = .comment →
      l.start ≤ s.start → o ≤ s.start) :
    ∃ u v, codeOf lang l.text = u ++ c :: v ∧ ∀ d ∈ v, isBlank d = true := by
  obtain ⟨hclear,rest,hrest,hend⟩ := codeOf_line hl hstart
  obtain ⟨u,v,htext,ho,hout,hlater⟩ := exists_parts_of_lastCode? hlast
  rcases through_or_inside (hrest.symm.trans htext) with ⟨x,hu,hx⟩ | ⟨z,hz,hcode⟩
  · -- the code ends before the character, so a comment begins there
    obtain ⟨s,hs,hcomment,hat⟩ := hend.resolve_left (by simp [hx])
    have hle := hbefore s hs hcomment (by omega)
    have hempty := (isBoundary_of_mem_spans hs).1
    simp only [Extent.isEmpty, decide_eq_false_iff_not] at hempty
    rw [hu, bytes_append] at ho
    have hin : inComment (spans (tokenize lang keywords text)) o = true := by
      refine inComment_iff.mpr ⟨s,hs,hcomment,?_⟩
      simp only [Extent.contains, Bool.and_eq_true, decide_eq_true_eq]
      omega
    rw [hout] at hin
    contradiction
  · -- the code has the character, and what it has behind it lies in no comment
    have hcut := hrest.symm.trans htext
    rw [hcode, List.append_assoc] at hcut
    cases z with
    | nil => exact absurd rfl hz
    | cons d z =>
      obtain ⟨rfl,rfl⟩ := List.cons.inj (List.append_cancel_left hcut)
      refine ⟨u,z,hcode,?_⟩
      intro e he
      obtain ⟨z₁,z₂,rfl⟩ := List.append_of_mem he
      refine (hlater z₁ e (z₂ ++ rest) (by simp)).resolve_right ?_
      intro hin
      obtain ⟨s,hs,hcomment,hcont⟩ := inComment_iff.mp hin
      exact hclear (u ++ d :: z₁) e z₂ (by simp [hcode]) s hs hcont hcomment

end EditAssist.Analysis

namespace EditAssist
open Text Token Analysis

/-- No terminator is found missing on a line whose last character outside comments, blanks apart, is
one, if the line does not start inside a token and no comment begins in it before that character. -/
theorem no_missing_semicolon (cat : Catalog) (lang : Language)
    (hrules : ∀ r ∈ cat.rules lang, r.kind ≠ "missing_semicolon") (text : List Char) {i : ℕ}
    {l : Line} (hl : (lines text)[i]? = some l) :
    let ss := spans (tokenize lang (cat.keywords lang) text)
    (∀ s ∈ ss, ¬ (s.start < l.start ∧ l.start < s.stop)) →
    ∀ o c, lastCode? ss l = some (o, c) → isTerminator c = true →
    (∀ s ∈ ss, s.category = .comment → l.start ≤ s.start → o ≤ s.start) →
    ∀ d ∈ cat.analyze lang text, d.kind = "missing_semicolon" → d.line ≠ i + 1 := by
  intro ss hstart o c hlast hc hbefore d hd hk hline
  obtain ⟨j,l',hl',f,hf,rfl⟩ := exists_finding_of_mem_found (by simp [checkKinds]) hrules
    (Diagnostic.mem_of_mem_arrange hd) hk
  obtain rfl : j = i := Nat.succ.inj hline
  obtain rfl := Option.some.inj (hl'.symm.trans hl)
  obtain ⟨u,v,hcode,hv⟩ :=
    exists_code_of_lastCode? (List.mem_of_getElem? hl) hstart hlast hbefore
  have hneeds := (List.mem_ite_nil_left.mp (mem_checkTerminator_of_kind hf hk)).1
  rw [hcode] at hneeds
  exact hneeds (needsNoTerminator_of_last u hc hv)

/-- A comment opener in a string and a comment behind the terminator do no harm. -/
theorem no_missing_semicolon_quoted :
    let cat := Catalog.tabulate fun _ => ⟨[], []⟩
    let text := ['\n', '"', '/', '*', '"', ';', '/', '/', 'b']
    let ss := spans (tokenize .java (cat.keywords .java) text)
    (∀ r ∈ cat.rules .java, r.kind ≠ "missing_semicolon") ∧
    (lines text)[1]? = some ⟨1, text.drop 1⟩ ∧
    (∀ s ∈ ss, ¬ (s.start < 1 ∧ 1 < s.stop)) ∧
    lastCode? ss ⟨1, text.drop 1⟩ = some (5, ';') ∧ isTerminator ';' = true ∧
    (∀ s ∈ ss, s.category = .comment → 1 ≤ s.start → 5 ≤ s.start) ∧
    ∀ d ∈ cat.analyze .java text, d.kind = "missing_semicolon" → d.line ≠ 2 := by
  intro cat text ss
  have hrules : ∀ r ∈ cat.rules .java, r.kind ≠ "missing_semicolon" := by simp [cat, Catalog.rules]
  have hss : ss = [⟨⟨0, 1⟩, .normal⟩, ⟨⟨1, 5⟩, .string⟩, ⟨⟨5, 6⟩, .normal⟩, ⟨⟨6, 9⟩, .comment⟩] := by
    decide +kernel
  have hl : (lines text)[1]? = some ⟨1, text.drop 1⟩ := by decide
  have hstart : ∀ s ∈ ss, ¬ (s.start < 1 ∧ 1 < s.stop) := by
    rw [hss]
    decide
  have hlast : lastCode? ss ⟨1, text.drop 1⟩ = some (5, ';') := by
    rw [hss]
    decide
  have hbefore : ∀ s ∈ ss, s.category = .comment → 1 ≤ s.start → 5 ≤ s.start := by
    rw [hss]
    decide
  exact ⟨hrules,hl,hstart,hlast,rfl,hbefore,
    no_missing_semicolon cat .java hrules text hl hstart 5 ';' hlast rfl hbefore⟩

/-- A terminator behind a comment in the middle of a statement is found missing. -/
theorem no_missing_semicolon_interrupted :
    let cat := Catalog.tabulate fun _ => ⟨[], []⟩
    let text := ['x', '/', '*', '*', '/', ';']
    let ss := spans (tokenize .java (cat.keywords .java) text)
    (∀ r ∈ cat.rules .java, r.kind ≠ "missing_semicolon") ∧ (lines text)[0]? = some ⟨0, text⟩ ∧
    (∀ s ∈ ss, ¬ (s.start < 0 ∧ 0 < s.stop)) ∧
    lastCode? ss ⟨0, text⟩ = some (5, ';') ∧ isTerminator ';' = true ∧
    cat.analyze .java text =
      [⟨1, 1, .error, "missing_semicolon", "Missing terminator: expected ';'"⟩] := by
  intro cat text ss
  have hss : ss = [⟨⟨0, 1⟩, .normal⟩, ⟨⟨1, 5⟩, .comment⟩, ⟨⟨5, 6⟩, .normal⟩] := by
    decide +kernel
  have hfound : found .java [] [] text =
      [⟨1, 1, .error, "missing_semicolon", "Missing terminator: expected ';'"⟩] := by
    decide +kernel
  refine ⟨by simp [cat, Catalog.rules],by decide,?_,?_,rfl,?_⟩
  · rw [hss]
    decide
  · rw [hss]
    decide
  · exact (congrArg Diagnostic.arrange hfound).trans (Diagnostic.arrange_singleton _)

end EditAssist
