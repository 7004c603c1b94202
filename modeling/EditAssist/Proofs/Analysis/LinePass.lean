import EditAssist.Proofs.Analysis.Correspondence
import EditAssist.Proofs.Analysis.LineCode

/-! What the pass over the lines looks at. It walks along the spans once and keeps those that do not end
before the line at hand, which tells for every line whether it starts inside a comment; so it examines
exactly the lines that start in no comment and are not idle. Of a line it examines the code, which is
the line up to the first comment that begins on it. -/
namespace EditAssist.Token
open Text Unicode

/-- A comment begins with a slash or a hash sign. -/
lemma Lexeme.exists_comment_head {lang : Language} {keywords : List String} {w r : List Char}
    (h : Lexeme lang keywords w r .comment) : ∃ c u, w = c :: u ∧ (c = '/' ∨ c = '#') := by
  obtain ⟨c,u,rfl⟩ := List.exists_cons_of_ne_nil h.ne_nil
  obtain ⟨s,hlead,-,hhas⟩ := h
  have hs : ¬ Analysis.IsCode s := by
    rintro ⟨hline,hblock⟩
    cases s with
    | lineComment => exact hline rfl
    | blockComment => exact hblock rfl
    | word => cases hhas
    | _ => cases hhas
  obtain ⟨o,ho,hp⟩ := Analysis.Leads.exists_opener hlead hs
  exact ⟨c,u,rfl,ho.head hp⟩

/-- A token that goes on behind a newline is a string or a block comment. -/
lemma Lexeme.of_newline_inside {lang : Language} {keywords : List String} {x z r : List Char}
    {k : Category} (h : Lexeme lang keywords (x ++ z) r k) (hx : '\n' ∈ x) (hz : z ≠ []) :
    k = .string ∨ lang ≠ .python ∧ k = .comment ∧ ∃ u, x ++ z = '/' :: '*' :: u := by
  have hmem : '\n' ∈ x ++ z := List.mem_append_left z hx
  have hlen : 2 ≤ (x ++ z).length := by
    have hposx := List.length_pos_of_mem hx
    have hposz := List.length_pos_of_ne_nil hz
    rw [List.length_append]
    omega
  obtain ⟨s,hlead,htake,hhas⟩ := h
  cases s with
  | lineComment => exact absurd rfl (htake.1 '\n' hmem)
  | blockComment =>
    obtain ⟨u,hu,-⟩ := htake
    exact .inr ⟨hlead.1.1,hhas,u,hu⟩
  | quoted => exact .inl hhas
  | number => exact absurd (htake.1 '\n' hmem) (by decide)
  | word => exact absurd (htake.1 '\n' hmem) (by decide)
  | operator =>
    have hone : (x ++ z).length = 1 := htake
    omega
  | other =>
    have hone : (x ++ z).length = 1 := htake
    omega

lemma obeysGrammar_of_mem_spans {lang : Language} {keywords : List String} {text : List Char} {s : Span}
    (h : s ∈ spans (tokenize lang keywords text)) : ObeysGrammar lang keywords text s :=
  obeysGrammar_of_mem_spansFrom [] text s h

lemma pairwise_start_spansFrom (start : ℕ) (ts : List Token) :
    (spansFrom start ts).Pairwise fun s t => s.start ≤ t.start := by
  induction ts generalizing start with
  | nil => exact .nil
  | cons t ts ih =>
    refine .cons ?_ (ih _)
    intro s hs
    have hle := le_of_mem_spansFrom hs
    simp only
    omega

end EditAssist.Token

namespace EditAssist.Analysis
open Text Token

section Selection

/-- The spans that do not end before an offset tell whether any comment has it inside. -/
lemma insideComment_spansFrom_iff (start o : ℕ) (ts : List Token) :
    insideComment (spansFrom start ts) o = true ↔
      ∃ s ∈ spansFrom start ts, s.category = .comment ∧ s.start < o ∧ o < s.stop := by
  induction ts generalizing start with
  | nil => simp [insideComment, startsInComment]
  | cons t ts ih =>
    rw [spansFrom_cons, List.exists_mem_cons_iff]
    by_cases ho : start + bytes t.text ≤ o
    · -- the span ends before the offset
      rw [insideComment_cons_of_le ho, ih]
      simp only [Nat.not_lt.mpr ho, and_false, false_or]
    · -- the span is the last that can have the offset inside
      have hlater : ¬ ∃ s ∈ spansFrom (start + bytes t.text) ts,
          s.category = .comment ∧ s.start < o ∧ o < s.stop := by
        rintro ⟨s,hs,-,hlt,-⟩
        have hle := le_of_mem_spansFrom hs
        omega
      rw [insideComment_cons_of_lt (Nat.lt_of_not_le ho)]
      simp only [hlater, or_false, decide_eq_true_eq, Nat.lt_of_not_le ho, and_true]
      exact And.comm

/-- A line that starts inside no comment, and whose text, blanks apart, is not empty and does not
start with a comment or a hash sign. -/
def IsExamined (lang : Language) (ss : List Span) (l : Line) : Prop :=
  (∀ s ∈ ss, s.category = .comment → ¬ (s.start < l.start ∧ l.start < s.stop)) ∧
    trim l.text ≠ [] ∧ ¬ ['/', '/'] <+: trim l.text ∧ ¬ ['#'] <+: trim l.text ∧
    (lang.hasBlockComments = true → ¬ ['/', '*'] <+: trim l.text)

instance (lang : Language) (ss : List Span) (l : Line) : Decidable (IsExamined lang ss l) :=
  inferInstanceAs (Decidable (_ ∧ _))

lemma isIdle_eq_false_iff {lang : Language} {t : List Char} :
    isIdle lang t = false ↔ trim t ≠ [] ∧ ¬ ['/', '/'] <+: trim t ∧ ¬ ['#'] <+: trim t ∧
      (lang.hasBlockComments = true → ¬ ['/', '*'] <+: trim t) := by
  have hstarts (part : String) : startsWith (trim t) part = true ↔ part.toList <+: trim t :=
    List.isPrefixOf_iff_prefix
  rw [← Bool.not_eq_true, isIdle]
  simp only [Bool.or_eq_true, Bool.and_eq_true, List.isEmpty_iff, hstarts, not_or, not_and, and_assoc]
  rfl

lemma isExamined_iff {lang : Language} {ts : List Token} {l : Line} :
    IsExamined lang (spans ts) l ↔
      (insideComment (spans ts) l.start || isIdle lang l.text) = false := by
  rw [Bool.or_eq_false_iff, isIdle_eq_false_iff, ← Bool.not_eq_true, spans,
    insideComment_spansFrom_iff]
  refine and_congr_left fun _ => ?_
  simp only [not_exists, not_and]

/-- The pass over some lines is a look at each of those that are examined. -/
theorem passFrom_eq_flatMap (s : Setting) (ts : List Token) {ls : List Line}
    (hls : ls.Pairwise fun l m => l.start ≤ m.start) (number : ℕ) :
    passFrom s number (spans ts) ls =
      ((ls.zipIdx number).filter fun p => IsExamined s.lang (spans ts) p.1).flatMap fun p =>
        lineDiagnostics s p.2 p.1.text := by
  induction ls generalizing number with
  | nil => rfl
  | cons l ls ih =>
    obtain ⟨hle,hls⟩ := List.pairwise_cons.mp hls
    rw [passFrom_cons number hle, ih hls, List.zipIdx_cons, List.filter_cons]
    simp only [isExamined_iff, decide_eq_true_eq]
    cases insideComment (spans ts) l.start || isIdle s.lang l.text <;> rfl

end Selection

section Inside
variable {lang : Language} {keywords : List String} {text : List Char} {l : Line} {s : Span}

/-- A token that has the start of a line inside has the newline before it, too. -/
lemma exists_newline_inside (hl : l ∈ lines text) (hs : s ∈ spans (tokenize lang keywords text))
    (hlt : s.start < l.start) (hstop : l.start < s.stop) :
    ∃ x z r, s.slice? text = some (x ++ z) ∧ Lexeme lang keywords (x ++ z) r s.category ∧
      '\n' ∈ x ∧ z ≠ [] := by
  obtain ⟨i,hi⟩ := List.mem_iff_getElem?.mp hl
  obtain ⟨a₀,b,htext₀,hstart,-,-,hline,-⟩ := isAt_of_getElem?_lines hi
  obtain ⟨a,w,r,htext,hsa,hsw,hlex⟩ := obeysGrammar_of_mem_spans hs
  have hextent : s.toExtent = ⟨bytes a, bytes a + bytes w⟩ := congrArg₂ Extent.mk hsa hsw
  have hslice : s.slice? text = some w := by
    rw [hextent, htext, ← List.append_assoc]
    exact Extent.slice?_append a w r
  have hcut : a ++ (w ++ r) = a₀ ++ (l.raw ++ b) := by rw [← htext, htext₀, List.append_assoc]
  rw [hstart] at hlt hstop
  obtain ⟨x,rfl,hrest⟩ := through_of_bytes_le hcut (by omega)
  rw [bytes_append] at hlt hstop
  obtain ⟨z,hz,rfl⟩ := inside_of_bytes_lt hrest (by omega)
  have hx : x ≠ [] := by
    rintro rfl
    rw [bytes_nil] at hlt
    omega
  have hnewline := List.mem_of_getLast? ((startsLine_of_append hline).resolve_left hx)
  exact ⟨x,z,r,hslice,hlex,hnewline,hz⟩

end Inside

/-- The line pass examines a line exactly if the line starts inside no comment and is not blank or a
comment as it stands; and a line that starts inside a token starts inside a string or, where there
are such, a block comment. -/
theorem passFrom_selects_lines (s : Setting) (keywords : List String) (text : List Char) :
    let ss := spans (tokenize s.lang keywords text)
    passFrom s 1 ss (lines text) =
      (((lines text).zipIdx 1).filter fun p => IsExamined s.lang ss p.1).flatMap (fun p =>
        lineDiagnostics s p.2 p.1.text) ∧
    ∀ l ∈ lines text, ∀ t ∈ ss, t.start < l.start → l.start < t.stop →
      t.category = .string ∨ s.lang.hasBlockComments = true ∧ t.category = .comment ∧
        ∃ u, t.slice? text = some ('/' :: '*' :: u) := by
  intro ss
  refine ⟨passFrom_eq_flatMap s _ (pairwise_lines text) 1,?_⟩
  intro l hl t ht hlt hstop
  obtain ⟨x,z,r,hslice,hlex,hx,hz⟩ := exists_newline_inside hl ht hlt hstop
  refine (hlex.of_newline_inside hx hz).imp_right ?_
  rintro ⟨hlang,hk,u,hu⟩
  exact ⟨(hasBlockComments_iff s.lang).mpr hlang,hk,u,hslice.trans (congrArg some hu)⟩

/-- The statement behind the end of a comment is not examined if the comment began on a line above. -/
theorem passFrom_selects_lines_behind :
    let text := ['/', '*', '\n', '*', '/', 'x']
    let s : Setting := ⟨.java, [], .ofText .java text, false⟩
    let ss := spans (tokenize .java [] text)
    let l : Line := ⟨3, ['*', '/', 'x']⟩
    let t : Span := ⟨⟨0, 5⟩, .comment⟩
    (l ∈ lines text ∧ t ∈ ss ∧ t.start < l.start ∧ l.start < t.stop ∧ t.category ≠ .string) ∧
      passFrom s 1 ss (lines text) = [] ∧ ∃ u, t.slice? text = some ('/' :: '*' :: u) := by
  intro text s ss l t
  have hss : ss = [⟨⟨0, 5⟩, .comment⟩, ⟨⟨5, 6⟩, .normal⟩] := by decide +kernel
  have hl : l ∈ lines text := by decide
  have ht : t ∈ ss := by
    rw [hss]
    decide
  have hnone : ((lines text).zipIdx 1).filter (fun p => IsExamined .java ss p.1) = [] := by
    rw [hss]
    decide
  obtain ⟨hpass,hinside⟩ := passFrom_selects_lines s [] text
  refine ⟨⟨hl,ht,by decide,by decide,by decide⟩,?_,?_⟩
  · exact hpass.trans (congrArg _ hnone)
  · exact ((hinside l hl t ht (by decide) (by decide)).resolve_left (by decide)).2.2

section Code
variable {lang : Language} {keywords : List String} {text : List Char} {l : Line} {s : Span}

/-- Whether a span begins on a line, its ending included. -/
def beginsOn (l : Line) (s : Span) : Bool := l.start ≤ s.start && s.start ≤ l.start + bytes l.raw

/-- The first comment that begins on a line. -/
def firstComment? (ss : List Span) (l : Line) : Option Span :=
  ss.find? fun s => s.category = .comment && beginsOn l s

/-- A comment that begins on a line begins before the ending of the line. -/
lemma lt_ending_of_beginsOn (hl : l ∈ lines text) (hs : s ∈ spans (tokenize lang keywords text))
    (hk : s.category = .comment) (hon : beginsOn l s = true) :
    s.start < l.start + bytes l.text := by
  obtain ⟨i,hi⟩ := List.mem_iff_getElem?.mp hl
  obtain ⟨a₀,b,htext₀,hstart,-,-,-,hb⟩ := isAt_of_getElem?_lines hi
  obtain ⟨a,w,r,htext,hsa,-,hlex⟩ := obeysGrammar_of_mem_spans hs
  rw [hk] at hlex
  obtain ⟨c,u,rfl,hc⟩ := hlex.exists_comment_head
  have hne : c ≠ '\n' ∧ c ≠ '\r' := by rcases hc with rfl | rfl <;> decide
  have hcut : a₀ ++ (l.raw ++ b) = a ++ (c :: u ++ r) := by
    rw [← List.append_assoc, ← htext₀, htext]
  simp only [beginsOn, Bool.and_eq_true, decide_eq_true_eq, hsa, hstart] at hon
  obtain ⟨x,rfl,hrest⟩ := through_of_bytes_le hcut hon.1
  rw [bytes_append] at hon
  rcases through_or_inside hrest with ⟨y,rfl,hy⟩ | ⟨z,hz,hraw⟩
  · -- at the end of the line there is a newline, if anything
    obtain rfl : y = [] := by
      by_contra hne
      have hpos := bytes_pos hne
      rw [bytes_append] at hon
      omega
    simp [hy, hne.1] at hb
  · have hline : InLine c (u ++ r) := ⟨hne.1,fun h => absurd h hne.2⟩
    have hlt := bytes_lt_dropReturn (x := x) hline hz (by simpa [hraw] using hrest) hb
    rw [← hraw] at hlt
    rw [hsa, hstart, bytes_append, Line.text]
    omega

/-- No comment begins in the code of a line. -/
lemma code_le_of_comment (hl : l ∈ lines text)
    (hstart : ∀ t ∈ spans (tokenize lang keywords text), ¬ (t.start < l.start ∧ l.start < t.stop))
    (hs : s ∈ spans (tokenize lang keywords text)) (hk : s.category = .comment)
    (hle : l.start ≤ s.start) : l.start + bytes (codeOf lang l.text) ≤ s.start := by
  obtain ⟨hclear,rest,hrest,-⟩ := codeOf_line hl hstart
  obtain ⟨a₀,e,htext₀,ha₀,-⟩ := exists_parts_of_line hl
  obtain ⟨a,w,r,htext,hsa,hsw,hlex⟩ := obeysGrammar_of_mem_spans hs
  by_contra hlt
  rw [hrest, List.append_assoc] at htext₀
  have hcut : a₀ ++ (codeOf lang l.text ++ (rest ++ e)) = a ++ (w ++ r) := by
    rw [← htext₀, htext]
  rw [hsa, ha₀] at hle hlt
  obtain ⟨u,rfl,hu⟩ := through_of_bytes_le hcut hle
  rw [bytes_append] at hlt
  obtain ⟨v,hv,hcode⟩ := inside_of_bytes_lt hu (by omega)
  obtain ⟨c,v,rfl⟩ := List.exists_cons_of_ne_nil hv
  refine hclear u c v hcode s hs ?_ hk
  have hpos := bytes_pos hlex.ne_nil
  simp only [Extent.contains, hsw, hsa, ha₀, bytes_append, Bool.and_eq_true, decide_eq_true_eq]
  omega

/-- What starts where the code of a line ends begins on the line. -/
lemma beginsOn_of_start_eq (h : s.start = l.start + bytes (codeOf lang l.text)) :
    beginsOn l s = true := by
  have hle : bytes (codeOf lang l.text) ≤ bytes l.raw :=
    (isBoundary_of_isPrefix ((codeOf_isPrefix lang l.text).trans (dropReturn_isPrefix l.raw))).le_bytes
  simp only [beginsOn, h, Bool.and_eq_true, decide_eq_true_eq]
  omega

/-- What is found first starts no later than anything else on the line. -/
lemma firstComment?_le {ts : List Token} {t : Span} (h : firstComment? (spans ts) l = some s)
    (ht : t ∈ spans ts) (hk : t.category = .comment) (hon : beginsOn l t = true) :
    s.start ≤ t.start := by
  obtain ⟨-,before,after,hss,hbefore⟩ := List.find?_eq_some_iff_append.mp h
  have hsorted := pairwise_start_spansFrom 0 ts
  rw [← spans, hss] at hsorted
  rw [hss] at ht
  rcases List.mem_append.mp ht with ht | ht
  · simpa [hk, hon] using hbefore t ht
  · rcases List.mem_cons.mp ht with rfl | ht
    · exact le_rfl
    · exact (List.pairwise_cons.mp (List.pairwise_append.mp hsorted).2.1).1 t ht

end Code

/-- The code of a line that starts inside no token is the line up to the first comment that begins on
it, or the whole line if there is none. -/
theorem codeOf_eq_cut_at_comment (lang : Language) (keywords : List String) (text : List Char)
    {l : Line} (hl : l ∈ lines text) :
    let ss := spans (tokenize lang keywords text)
    (∀ s ∈ ss, ¬ (s.start < l.start ∧ l.start < s.stop)) →
    match firstComment? ss l with
    | none => codeOf lang l.text = l.text
    | some s => l.start ≤ s.start ∧ takeBytes (s.start - l.start) l.text = some (codeOf lang l.text) := by
  intro ss hstart
  obtain ⟨-,rest,hrest,hend⟩ := codeOf_line hl hstart
  cases hfirst : firstComment? ss l with
  | none =>
    refine hend.elim (fun hnil => by simpa [hnil] using hrest.symm) ?_
    rintro ⟨s,hs,hk,hat⟩
    simpa [hk, beginsOn_of_start_eq hat] using List.find?_eq_none.mp hfirst s hs
  | some s =>
    have hs := List.mem_of_find?_eq_some hfirst
    obtain ⟨hk,hon⟩ : s.category = .comment ∧ beginsOn l s = true := by
      simpa using List.find?_some hfirst
    have hle : l.start ≤ s.start := by
      simp only [beginsOn, Bool.and_eq_true, decide_eq_true_eq] at hon
      exact hon.1
    have hcode := code_le_of_comment hl hstart hs hk hle
    have hat : s.start = l.start + bytes (codeOf lang l.text) := by
      rcases hend with rfl | ⟨s₀,hs₀,hk₀,hat₀⟩
      · have hlt := lt_ending_of_beginsOn hl hs hk hon
        rw [List.append_nil] at hrest
        rw [← hrest] at hcode
        omega
      · have hfirst := firstComment?_le hfirst hs₀ hk₀ (beginsOn_of_start_eq hat₀)
        omega
    have htake := takeBytes_append (codeOf lang l.text) rest
    rw [← hrest] at htake
    exact ⟨hle,by rw [hat, Nat.add_sub_cancel_left, htake]⟩

/-- An opener in a string does not count, nor do a quote and an opener inside the comment. -/
theorem codeOf_eq_cut_at_comment_quoted :
    let text := ['\n', '\'', '/', '/', '\'', '/', '*', '"', '/', '/', '*', '/']
    let l : Line := ⟨1, text.drop 1⟩
    let ss := spans (tokenize .java [] text)
    l ∈ lines text ∧ (∀ s ∈ ss, ¬ (s.start < l.start ∧ l.start < s.stop)) ∧
      firstComment? ss l = some ⟨⟨5, 12⟩, .comment⟩ ∧
      takeBytes (5 - 1) l.text = some (codeOf .java l.text) := by
  intro text l ss
  have hss : ss = [⟨⟨0, 1⟩, .normal⟩, ⟨⟨1, 5⟩, .string⟩, ⟨⟨5, 12⟩, .comment⟩] := by decide +kernel
  have hl : l ∈ lines text := by decide
  have hstart : ∀ s ∈ ss, ¬ (s.start < l.start ∧ l.start < s.stop) := by
    rw [hss]
    decide
  have hfirst : firstComment? ss l = some ⟨⟨5, 12⟩, .comment⟩ := by
    rw [hss]
    decide
  have hcut := codeOf_eq_cut_at_comment .java [] text hl hstart
  rw [show firstComment? (spans (tokenize .java [] text)) l = _ from hfirst] at hcut
  exact ⟨hl,hstart,hfirst,hcut.2⟩

end EditAssist.Analysis
