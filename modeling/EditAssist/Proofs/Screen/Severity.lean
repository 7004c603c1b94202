import EditAssist.Proofs.Diagnostic.Arrangement
import EditAssist.Proofs.Screen.Reproduction
import EditAssist.Proofs.Text.LineIndex

/-! The background of a span on the terminal is that of the worst diagnostic on its line. The buffer
takes the first overlay that covers the start of the span; it is the right one because overlays stand
in the order of their diagnostics, which on a line go from the worst to the least, and because the
overlays of other lines, and those of its own before the ending, cover no offset of a line. -/
namespace EditAssist.Screen
open Text Token

/-- A diagnostic of a line that has no worse one. -/
def IsWorstOn (ds : List Diagnostic) (number : ℕ) (d : Diagnostic) : Prop :=
  d ∈ ds ∧ d.line = number ∧ ∀ e ∈ ds, e.line = number → d.severity.rank ≤ e.severity.rank

/-- A line of a text on which an offset lies: in the line, or in the ending behind it. -/
structure LiesOn (text : List Char) (offset number : ℕ) (l : Line) : Prop where
  isAt : l.IsAt text number
  start_le : l.start ≤ offset
  le_end : offset ≤ l.start + bytes l.raw

/-- The background of an offset by the diagnostics on its line: that of the worst one, or the default
one if there is none or the offset is in the ending of the line. -/
inductive LineBackground (ds : List Diagnostic) (offset number : ℕ) (l : Line) : Color → Prop
  | worst {d : Diagnostic} : l.extent.contains offset = true → IsWorstOn ds number d →
      LineBackground ds offset number l d.severity.overlayStyle.bg
  | clean : l.extent.contains offset = true → (∀ d ∈ ds, d.line ≠ number) →
      LineBackground ds offset number l .default
  | ending : l.extent.stop ≤ offset → LineBackground ds offset number l .default

section Lines
variable {text : List Char} {offset number : ℕ} {l : Line}

lemma exists_liesOn (h : offset ≤ bytes text) : ∃ number l, LiesOn text offset number l := by
  obtain ⟨i,p,hp,hle,hle',-⟩ := LineIndex.exists_piece_of_locate h
  have hl : (lines text)[i]? = some ⟨pieceStart text i, p⟩ := by rw [getElem?_lines, hp, Option.map_some]
  exact ⟨i + 1,_,isAt_of_getElem?_lines hl,hle,hle'⟩

/-- An offset lies on one line only. -/
lemma LiesOn.unique {number' : ℕ} {l' : Line} (h : LiesOn text offset number l)
    (h' : LiesOn text offset number' l') : number = number' ∧ l = l' := by
  have hle := h.start_le
  have hle' := h'.start_le
  have hend := h.le_end
  have hend' := h'.le_end
  rcases Nat.lt_trichotomy number number' with hlt | rfl | hlt
  · have hapart := h.isAt.end_lt h'.isAt hlt
    omega
  · exact ⟨rfl,h.isAt.unique h'.isAt⟩
  · have hapart := h'.isAt.end_lt h.isAt hlt
    omega

lemma extent_stop_le (l : Line) : l.extent.stop ≤ l.start + bytes l.raw :=
  Nat.add_le_add_left (isBoundary_of_isPrefix (dropReturn_isPrefix l.raw)).le_bytes _

/-- The overlay of a diagnostic covers an offset if the diagnostic is on the line of the offset, and
the offset not in the ending of the line. -/
lemma contains_iff_of_covers {d : Diagnostic} {o : Overlay} (h : LiesOn text offset number l)
    (hcovers : Highlighter.Covers text d o) :
    o.extent.contains offset = true ↔ d.line = number ∧ l.extent.contains offset = true := by
  obtain ⟨⟨l',hl',ho⟩,-⟩ := hcovers
  rw [ho]
  constructor
  · intro hcontains
    obtain ⟨hle,hlt⟩ := Extent.contains_iff.mp hcontains
    have hstop := extent_stop_le l'
    obtain ⟨rfl,rfl⟩ := h.unique ⟨hl',hle,by omega⟩
    exact ⟨rfl,hcontains⟩
  · rintro ⟨rfl,hcontains⟩
    rwa [hl'.unique h.isAt]

end Lines

section Overlays
variable {text : List Char} {offset number : ℕ} {l : Line} {ds : List Diagnostic} {os : List Overlay}

/-- Overlays ask for the background of the first diagnostic on the line of an offset, if the offset is
not in the ending of the line. -/
lemma backgroundAt_eq_find? (h : LiesOn text offset number l)
    (hos : List.Forall₂ (Highlighter.Covers text) ds os) :
    backgroundAt os offset =
      ((ds.find? fun d => d.line = number && l.extent.contains offset).map
        (·.severity.overlayStyle.bg)).getD .default := by
  induction hos with
  | nil => rfl
  | @cons d o ds os hcovers _ ih =>
    have hsame : o.extent.contains offset = (decide (d.line = number) && l.extent.contains offset) := by
      rw [Bool.eq_iff_iff, contains_iff_of_covers h hcovers, Bool.and_eq_true, decide_eq_true_eq]
    rw [backgroundAt, List.find?_cons, List.find?_cons, hsame]
    cases decide (d.line = number) && l.extent.contains offset with
    | true =>
      simp only [Option.map_some, Option.getD_some]
      rw [Overlay.style, hcovers.2]
    | false => exact ih

/-- The first diagnostic of a line is the worst, if diagnostics are in order. -/
lemma isWorstOn_of_find? {d : Diagnostic}
    (hordered : ds.Pairwise fun a b =>
      a.line < b.line ∨ a.line = b.line ∧ a.severity.rank ≤ b.severity.rank)
    (hfind : ds.find? (·.line = number) = some d) : IsWorstOn ds number d := by
  obtain ⟨hline,before,after,rfl,hbefore⟩ := List.find?_eq_some_iff_append.mp hfind
  have hline : d.line = number := by simpa using hline
  refine ⟨by simp,hline,?_⟩
  intro e he heline
  rcases List.mem_append.mp he with he | he
  · exact absurd heline (by simpa using hbefore e he)
  · rcases List.mem_cons.mp he with rfl | he
    · exact Nat.le_refl _
    · have hafter := (List.pairwise_append.mp hordered).2.1
      have hde := (List.pairwise_cons.mp hafter).1 e he
      omega

/-- The overlays of diagnostics that are in order ask for the background of the worst on a line. -/
theorem lineBackground_backgroundAt (h : LiesOn text offset number l)
    (hordered : ds.Pairwise fun a b =>
      a.line < b.line ∨ a.line = b.line ∧ a.severity.rank ≤ b.severity.rank)
    (hos : List.Forall₂ (Highlighter.Covers text) ds os) :
    LineBackground ds offset number l (backgroundAt os offset) := by
  rw [backgroundAt_eq_find? h hos]
  cases hcontains : l.extent.contains offset with
  | false =>
    have hend : l.extent.stop ≤ offset := by
      by_contra hlt
      have hin := Extent.contains_iff.mpr ⟨h.start_le,Nat.lt_of_not_le hlt⟩
      rw [hcontains] at hin
      contradiction
    have hnone : (ds.find? fun d => decide (d.line = number) && false) = none := by
      simp [List.find?_eq_none]
    rw [hnone]
    exact .ending hend
  | true =>
    simp only [Bool.and_true]
    cases hfind : ds.find? (·.line = number) with
    | none => exact .clean hcontains (by simpa using List.find?_eq_none.mp hfind)
    | some d => exact .worst hcontains (isWorstOn_of_find? hordered hfind)

end Overlays

/-- Tokens are written span by span, each on the background at its start. -/
lemma tokensFrom_eq_flatMap (color : Bool) (os : List Overlay) (before : List Char) (ts : List Token)
    (after : List Char) :
    tokensFrom color os (bytes before) ts = (spansFrom (bytes before) ts).flatMap fun s =>
      paintedLines color { s.category.style with bg := backgroundAt os s.start }
        (splitOn '\n' ((s.slice? (before ++ ts.flatMap (·.text) ++ after)).getD [])) := by
  induction ts generalizing before with
  | nil => rfl
  | cons t ts ih =>
    have hslice := Extent.slice?_append before t.text (ts.flatMap (·.text) ++ after)
    have hrest := ih (before ++ t.text)
    simp only [bytes_append, List.append_assoc] at hslice hrest
    simp only [tokensFrom, spansFrom_cons, List.flatMap_cons, List.append_assoc, hslice, hrest,
      tokenStyle_eq, Option.getD_some]

/-- The text of a highlighter on the terminal, whatever the highlighter was asked before. It is written
span by span, each in the style of its category and on one background; and that is the background of
the worst diagnostic on the line on which the span starts, or the default one, if the line has none or
the span starts in the ending of the line. -/
theorem buffer_paints_worst (shelf : Catalog.Shelf) (enabled : Bool) (steps : List Highlighter.Step)
    (read : FileReader) (lang : Language) (text : List Char) :
    let h := ((Highlighter.start shelf enabled).run steps).highlight read lang text
    let os := h.2.overlays
    let ds := if Highlighter.enabledAfter enabled steps then
      (Highlighter.catalogAfter shelf steps read).analyze lang text else []
    (∀ color, buffer color os text h.1 = (spans h.1).flatMap (fun s =>
      paintedLines color { s.category.style with bg := backgroundAt os s.start }
        (splitOn '\n' ((s.slice? text).getD []))) ++ ending text) ∧
    ∀ s ∈ spans h.1, (∃ number l, LiesOn text s.start number l) ∧
      ∀ number l, LiesOn text s.start number l →
        LineBackground ds s.start number l (backgroundAt os s.start) := by
  intro h os ds
  have hc := (Highlighter.coherent_start shelf enabled).run steps
  have hts := hc.tokens_highlight read lang text
  have htext : h.1.flatMap (·.text) = text := by rw [hts, flatMap_text_tokenize]
  have hds : h.2.diagnostics = ds := by
    rw [Highlighter.diagnostics_highlight, Highlighter.diagnosticsEnabled_run,
      (Highlighter.coherent_start shelf enabled).catalog_run]
    rfl
  have hos : List.Forall₂ (Highlighter.Covers text) ds os := by
    have hcovers := (hc.step (.highlight read lang text)).forall₂_overlays
    rw [← hds]
    rwa [Highlighter.step, Highlighter.lastText_highlight] at hcovers
  have hordered : ds.Pairwise fun a b =>
      a.line < b.line ∨ a.line = b.line ∧ a.severity.rank ≤ b.severity.rank := by
    dsimp only [ds]
    split_ifs
    · exact (Diagnostic.isArrangement_arrange _).ordered
    · exact .nil
  refine ⟨?_,?_⟩
  · intro color
    have hflat := tokensFrom_eq_flatMap color os [] h.1 []
    rw [List.nil_append, List.append_nil, htext] at hflat
    rw [buffer_eq]
    exact congrArg (· ++ ending text) hflat
  · intro s hs
    have hboundary : IsBoundary text s.start := by
      rw [hts] at hs
      exact (isBoundary_of_mem_spans hs).2.1
    exact ⟨exists_liesOn hboundary.le_bytes,fun number l hl =>
      lineBackground_backgroundAt hl hordered hos⟩

/-- On a line with a warning and an error it is the error that counts. -/
theorem buffer_paints_worst_mixed :
    let text := ['v', 'a', 'l', ')']
    let cat := Catalog.tabulate fun _ => ⟨[], []⟩
    let h := (Highlighter.start ⟨.builtin, some cat⟩ true).highlight (fun _ => .ok []) .kotlin text
    ⟨⟨0, 3⟩, .normal⟩ ∈ spans h.1 ∧ LiesOn text 0 1 ⟨0, text⟩ ∧
      cat.analyze .kotlin text =
        [⟨1, 3, .error, "unmatched_bracket", "Unmatched closing bracket ')'"⟩,
          ⟨1, 0, .warning, "missing_initializer", "'val' declaration has no initializer"⟩] ∧
      backgroundAt h.2.overlays 0 = .red := by
  intro text cat h
  have hts : h.1 = ⟨.normal, ['v', 'a', 'l']⟩ :: tokenize .kotlin [] [')'] :=
    ((Highlighter.coherent_start _ true).tokens_highlight _ .kotlin text).trans
      (@tokenize_of_reach .kotlin [] 'v' ['a', 'l'] [')'] rfl)
  have hs : (⟨⟨0, 3⟩, .normal⟩ : Span) ∈ spans h.1 := by
    rw [hts]
    exact List.mem_cons_self
  have hl : LiesOn text 0 1 ⟨0, text⟩ :=
    ⟨⟨[],[],rfl,rfl,rfl,by decide,.inl rfl,.inl rfl⟩,Nat.le_refl 0,Nat.zero_le _⟩
  have hds : cat.analyze .kotlin text =
      [⟨1, 3, .error, "unmatched_bracket", "Unmatched closing bracket ')'"⟩,
        ⟨1, 0, .warning, "missing_initializer", "'val' declaration has no initializer"⟩] := by
    have hfound : Analysis.found .kotlin [] [] text =
        [⟨1, 0, .warning, "missing_initializer", "'val' declaration has no initializer"⟩,
          ⟨1, 3, .error, "unmatched_bracket", "Unmatched closing bracket ')'"⟩] := by
      decide +kernel
    rw [Catalog.analyze, Analysis.analyze_eq_arrange]
    exact (congrArg Diagnostic.arrange hfound).trans
      (Diagnostic.arrange_pair (by decide) (by decide))
  obtain ⟨-,hpaint⟩ :=
    buffer_paints_worst ⟨.builtin, some cat⟩ true [] (fun _ => .ok []) .kotlin text
  have hbg : LineBackground (cat.analyze .kotlin text) 0 1 ⟨0, text⟩ (backgroundAt h.2.overlays 0) :=
    (hpaint _ hs).2 1 ⟨0, text⟩ hl
  rw [hds] at hbg
  refine ⟨hs,hl,hds,?_⟩
  generalize backgroundAt h.2.overlays 0 = bg at hbg
  cases hbg with
  | worst _ hworst =>
    obtain ⟨hmem,-,hleast⟩ := hworst
    have hrank := hleast _ List.mem_cons_self rfl
    rcases List.mem_pair.mp hmem with rfl | rfl
    · rfl
    · contradiction
  | clean _ hnone => exact absurd rfl (hnone _ List.mem_cons_self)
  | ending hend => contradiction

end EditAssist.Screen
