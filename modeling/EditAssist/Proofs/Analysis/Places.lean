import EditAssist.Checker
import EditAssist.Highlighter
import EditAssist.Proofs.Analysis.Columns
import EditAssist.Proofs.Analysis.Correspondence
import EditAssist.Proofs.Analysis.Offsets
import EditAssist.Proofs.Pattern.Starts
import EditAssist.Proofs.Text.LineIndex
import EditAssist.Proofs.Token.Shape

/-! Every diagnostic points into the text. Columns come from matches, words, trimmed lines, offsets
of brackets and quotes, and comment openers; each of them is a boundary of a line that the text has,
its ending excluded. -/
namespace EditAssist.Analysis
open Text

/-- A line of a text, counted from one, and a boundary of it. -/
def PointsInto (text : List Char) (line column : ℕ) : Prop :=
  ∃ i l, line = i + 1 ∧ (lines text)[i]? = some l ∧ IsBoundary l.text column

lemma pointsInto_of_piece {text u v : List Char} {i : ℕ} {c : Char} (hc : c ≠ '\r')
    (h : (splitOn '\n' text)[i]? = some (u ++ c :: v)) : PointsInto text (i + 1) (bytes u) := by
  rw [← getElem?_lines_map_raw] at h
  obtain ⟨l,hl,hraw⟩ := Option.map_eq_some_iff.mp h
  refine ⟨i,l,rfl,hl,isBoundary_of_isPrefix ?_⟩
  rw [Line.text, hraw]
  exact prefix_dropReturn u v hc

/-- The place of a character that ends no line points into the text. -/
theorem pointsInto_locate {text a b : List Char} {c : Char} (h : text = a ++ c :: b) (hn : c ≠ '\n')
    (hr : c ≠ '\r') :
    PointsInto text ((LineIndex.ofText text).locate (bytes a)).1
      ((LineIndex.ofText text).locate (bytes a)).2 := by
  subst h
  obtain ⟨v,r,hi,hb,hend,hl⟩ := LineIndex.exists_line_of_cut a (c :: b)
  rw [hl]
  cases v with
  | nil =>
    rw [List.nil_append] at hb
    subst hb
    simp [hn] at hend
  | cons d v =>
    obtain ⟨rfl,-⟩ := List.cons.inj hb
    exact pointsInto_of_piece hr hi

/-- What it takes to point into a text: the line is there and has a range, the column lies in the
range and is a boundary, and so the line can be sliced out and cut at the column. -/
theorem PointsInto.spec {text : List Char} {line column : ℕ} (h : PointsInto text line column) :
    1 ≤ line ∧ line ≤ (LineIndex.ofText text).lineCount ∧
    ∃ r, (LineIndex.ofText text).lineRange text line = some r ∧ r.start ≤ r.stop ∧
      column ≤ r.stop - r.start ∧ IsBoundary text (r.start + column) ∧
      ∃ t before, r.slice? text = some t ∧ takeBytes column t = some before := by
  obtain ⟨i,l,rfl,hl,hb⟩ := h
  have hi : i < (lines text).length := (List.getElem?_eq_some_iff.mp hl).1
  obtain ⟨a,b,htext,hstart⟩ := exists_parts_of_mem_lines (List.mem_of_getElem? hl)
  obtain ⟨e,he⟩ := dropReturn_isPrefix l.raw
  have hparts : text = a ++ l.text ++ (e ++ b) := by
    rw [htext, ← he]
    simp [Line.text]
  refine ⟨by omega,by rw [LineIndex.lineCount_ofText]; omega,l.extent,
    by rw [LineIndex.lineRange_succ, hl, Option.map_some],?_,?_,?_,l.text,?_⟩
  · exact Nat.le_add_right _ _
  · have hle := hb.le_bytes
    simp only [Line.extent]
    omega
  · rw [hparts]
    simp only [Line.extent, hstart]
    exact hb.behind a (e ++ b)
  · obtain ⟨s,r,hs,rfl⟩ := hb
    refine ⟨s,?_,by rw [hs, takeBytes_append]⟩
    rw [hparts, Line.extent, hstart]
    exact Extent.slice?_append a l.text (e ++ b)

lemma pointsInto_missingInclude (text : List Char) (lang : Language) :
    PointsInto text (missingInclude lang).line (missingInclude lang).column := by
  cases hl : lines text with
  | nil =>
    have hne : (lines text).map Line.raw ≠ [] := by
      rw [lines, map_raw_layout]
      exact splitBy_ne_nil _ _
    simp [hl] at hne
  | cons l ls => exact ⟨0,l,rfl,by rw [hl]; rfl,isBoundary_zero _⟩

/-- The diagnostics of a line point at it, or at the start of the text. -/
lemma pointsInto_of_mem_lineDiagnostics {text : List Char} {s : Setting} {i : ℕ} {l : Line}
    {d : Diagnostic} (hl : (lines text)[i]? = some l)
    (h : d ∈ lineDiagnostics s (i + 1) l.text) :
    PointsInto text d.line d.column := by
  rcases List.mem_append.mp h with h | h
  · rcases List.mem_append.mp h with h | h
    · obtain ⟨-,h⟩ := List.mem_ite_nil_right.mp h
      obtain rfl := List.mem_singleton.mp h
      exact pointsInto_missingInclude text s.lang
    · obtain ⟨r,-,h⟩ := List.mem_flatMap.mp h
      obtain ⟨column,hc,rfl⟩ := List.mem_map.mp h
      exact ⟨i,l,rfl,hl,Pattern.Program.isBoundary_of_mem_starts r.pattern.program l.text column hc⟩
  · obtain ⟨f,hf,rfl⟩ := List.mem_map.mp h
    exact ⟨i,l,rfl,hl,isBoundary_of_mem_checkLine hf⟩

/-- A diagnostic of the pass over some lines is one of a line among them. -/
lemma exists_line_of_mem_passFrom (s : Setting) (number : ℕ) (spans : List Span) (ls : List Line) :
    ∀ d ∈ passFrom s number spans ls,
      ∃ i l, ls[i]? = some l ∧ d ∈ lineDiagnostics s (number + i) l.text := by
  fun_induction passFrom s number spans ls with
  | case1 => simp
  | case2 number spans l ls spans' rest hidle ih =>
    intro d hd
    obtain ⟨i,l',hl,hd⟩ := ih d hd
    exact ⟨i + 1,l',hl,by rwa [Nat.add_right_comm] at hd⟩
  | case3 number spans l ls spans' rest hidle ih =>
    intro d hd
    rcases List.mem_append.mp hd with hd | hd
    · exact ⟨0,l,rfl,hd⟩
    · obtain ⟨i,l',hl,hd⟩ := ih d hd
      exact ⟨i + 1,l',hl,by rwa [Nat.add_right_comm] at hd⟩

theorem pointsInto_of_mem_pass {text : List Char} {s : Setting} {spans : List Span} {d : Diagnostic}
    (h : d ∈ passFrom s 1 spans (lines text)) : PointsInto text d.line d.column := by
  obtain ⟨i,l,hl,hd⟩ := exists_line_of_mem_passFrom s 1 spans (lines text) d h
  rw [Nat.add_comm] at hd
  exact pointsInto_of_mem_lineDiagnostics hl hd

theorem pointsInto_of_mem_bracketDiagnostics {text : List Char} {ts : List Token} {d : Diagnostic}
    (ht : ts.flatMap (·.text) = text) (h : d ∈ bracketDiagnostics (LineIndex.ofText text) ts) :
    PointsInto text d.line d.column := by
  obtain ⟨⟨o,f⟩,hm,rfl⟩ := List.mem_map.mp h
  obtain ⟨c,hm⟩ := exists_bracket_of_mem_matchBrackets [] (brackets ts) hm
  obtain ⟨hcode,hb⟩ := List.mem_filter.mp (hm.resolve_left List.not_mem_nil)
  obtain ⟨a,b,hab,ho⟩ := exists_parts_of_mem_codeFrom hcode
  obtain ⟨hn,hr⟩ := ne_of_isBracket hb
  rw [Nat.zero_add] at ho
  subst ho
  exact pointsInto_locate (ht.symm.trans hab) hn hr

theorem pointsInto_of_mem_stringDiagnostics {lang : Language} {keywords : List String}
    {text : List Char} {d : Diagnostic}
    (h : d ∈ stringDiagnostics (LineIndex.ofText text) (Token.tokenize lang keywords text)) :
    PointsInto text d.line d.column := by
  obtain ⟨o,hm,rfl⟩ := List.mem_map.mp h
  obtain ⟨before,t,after,hts,ht,ho⟩ := exists_token_of_mem_openStringsFrom hm
  have hmem : t ∈ Token.tokenize lang keywords text := by simp [hts]
  obtain ⟨q,body,hq,hquote⟩ :=
    Token.exists_quote_of_mem_tokenize hmem (category_of_isOpenString ht)
  have htext : text = before.flatMap (·.text) ++ q :: (body ++ after.flatMap (·.text)) := by
    rw [← Token.flatMap_text_tokenize lang keywords text, hts]
    simp [hq]
  rw [Nat.zero_add] at ho
  subst ho
  rcases hquote with rfl | rfl
  · exact pointsInto_locate htext (by decide) (by decide)
  · exact pointsInto_locate htext (by decide) (by decide)

theorem pointsInto_of_mem_commentDiagnostics {text : List Char} {d : Diagnostic}
    (h : d ∈ commentDiagnostics text) : PointsInto text d.line d.column := by
  obtain ⟨p,hp,rfl⟩ := List.mem_map.mp h
  rcases exists_line_of_openCommentFrom 1 none _ p (Option.mem_toList.mp hp) with hn | ⟨i,a,b,rfl,hi⟩
  · contradiction
  · rw [Nat.add_comm]
    exact pointsInto_of_piece (by decide) hi

end EditAssist.Analysis

namespace EditAssist
open Text Analysis

lemma Diagnostic.mem_of_mem_distinctFrom {seen : Std.HashSet (ℕ × ℕ × String)}
    {ds : List Diagnostic} {d : Diagnostic} (h : d ∈ distinctFrom seen ds) : d ∈ ds := by
  fun_induction distinctFrom seen ds with
  | case1 => exact h
  | case2 seen e ds hs ih => exact List.mem_cons_of_mem _ (ih h)
  | case3 seen e ds hs ih =>
    rcases List.mem_cons.mp h with rfl | h
    · exact List.mem_cons_self
    · exact List.mem_cons_of_mem _ (ih h)

/-- Putting diagnostics in order makes up no new ones. -/
lemma Diagnostic.mem_of_mem_arrange {ds : List Diagnostic} {d : Diagnostic} (h : d ∈ arrange ds) :
    d ∈ ds :=
  mem_of_mem_distinctFrom (List.mem_mergeSort.mp h)

theorem pointsInto_of_mem_found {lang : Language} {keywords : List String} {rules : List Rule}
    {text : List Char} {d : Diagnostic} (h : d ∈ found lang keywords rules text) :
    PointsInto text d.line d.column := by
  simp only [found, List.append_assoc, List.mem_append, List.mem_ite_nil_right] at h
  rcases h with h | h | h | ⟨-,h⟩
  · exact pointsInto_of_mem_pass h
  · exact pointsInto_of_mem_bracketDiagnostics (Token.flatMap_text_tokenize lang keywords text) h
  · exact pointsInto_of_mem_stringDiagnostics h
  · exact pointsInto_of_mem_commentDiagnostics h

theorem pointsInto_of_mem_analyze {lang : Language} {keywords : List String} {rules : List Rule}
    {text : List Char} {d : Diagnostic} (h : d ∈ analyze lang keywords rules text) :
    PointsInto text d.line d.column :=
  pointsInto_of_mem_found (Diagnostic.mem_of_mem_arrange h)

/-- An overlay that lies on the line of a diagnostic of a text and has its severity. -/
def Overlay.IsOn (text : List Char) (d : Diagnostic) (o : Overlay) : Prop :=
  (LineIndex.ofText text).lineRange text d.line = some o.extent ∧ o.severity = d.severity

/-- Diagnostics whose lines the text has are all overlaid, in order. -/
lemma forall₂_overlays {text : List Char} {ds : List Diagnostic}
    (h : ∀ d ∈ ds, ((LineIndex.ofText text).lineRange text d.line).isSome) :
    List.Forall₂ (Overlay.IsOn text) ds (overlays text ds) := by
  induction ds with
  | nil => exact .nil
  | cons d ds ih =>
    obtain ⟨hd,hds⟩ := List.forall_mem_cons.mp h
    obtain ⟨r,hr⟩ := Option.isSome_iff_exists.mp hd
    have ho : overlays text (d :: ds) = ⟨r, d.severity⟩ :: overlays text ds := by
      simp [overlays, hr]
    rw [ho]
    exact .cons ⟨hr,rfl⟩ (ih hds)

theorem forall₂_overlays_analyze (cat : Catalog) (lang : Language) (text : List Char) :
    List.Forall₂ (Overlay.IsOn text) (cat.analyze lang text) (overlays text (cat.analyze lang text)) := by
  apply forall₂_overlays
  intro d hd
  obtain ⟨-,-,r,hr,-⟩ := (pointsInto_of_mem_analyze hd).spec
  rw [hr, Option.isSome_some]

lemma Highlighter.lastText_highlight (h : Highlighter) (read : FileReader) (lang : Language)
    (text : List Char) : (h.highlight read lang text).2.lastText = text := by
  unfold highlight
  dsimp only
  split <;> rfl

/-- A highlighter that was given a text has the diagnostics of that text, or none. -/
lemma Highlighter.diagnostics_highlight (h : Highlighter) (read : FileReader) (lang : Language)
    (text : List Char) :
    (h.highlight read lang text).2.diagnostics =
      if h.diagnosticsEnabled then (h.checker.shelf.catalog read).analyze lang text else [] := by
  unfold highlight
  dsimp only
  split <;> split_ifs <;> rfl

/-- Every diagnostic of a text points at a real place in it: its line is one of the text and has a
range, its column lies in the range, and the text can be cut there. So a report always cuts the line
at the column, and a highlighter that was given the text has an overlay for each diagnostic. -/
theorem analyze_points_into_text (cat : Catalog) (lang : Language) (text : List Char) :
    let index := LineIndex.ofText text
    (∀ d ∈ cat.analyze lang text, 1 ≤ d.line ∧ d.line ≤ index.lineCount ∧
      ∃ r, index.lineRange text d.line = some r ∧ r.start ≤ r.stop ∧ d.column ≤ r.stop - r.start ∧
        IsBoundary text (r.start + d.column) ∧
        ∃ line before, r.slice? text = some line ∧ takeBytes d.column line = some before) ∧
    List.Forall₂ (Overlay.IsOn text) (cat.analyze lang text) (overlays text (cat.analyze lang text)) ∧
    ∀ (h : Highlighter) (read : FileReader),
      List.Forall₂ (Overlay.IsOn text) (h.highlight read lang text).2.diagnostics
        (h.highlight read lang text).2.overlays := by
  refine ⟨?_,forall₂_overlays_analyze cat lang text,?_⟩
  · intro d hd
    exact (pointsInto_of_mem_analyze hd).spec
  · intro h read
    rw [Highlighter.overlays, h.lastText_highlight, h.diagnostics_highlight]
    split_ifs
    · exact forall₂_overlays_analyze (h.checker.shelf.catalog read) lang text
    · exact .nil

end EditAssist
