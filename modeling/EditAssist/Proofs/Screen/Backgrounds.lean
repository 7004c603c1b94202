import EditAssist.Proofs.Analysis.Brackets
import EditAssist.Proofs.Diagnostic.Order
import EditAssist.Proofs.Highlighter.Transparency
import EditAssist.Screen
import Mathlib.Data.List.Find

/-! The backgrounds of a text on the terminal. A token is written in one style, on the background of
the first overlay that covers its first byte; newlines are written plain. An overlay covers the bytes
of a line, so a character has the background of the overlays on it as long as no newline stands
between it and the start of its token. A token that goes on behind the line takes the background of
its first line along. -/
namespace EditAssist.Screen
open Text Token

/-- Characters with the styles they are written in, and what is written. -/
inductive Writes : List (Char × Style) → List Char → Prop
  | nil : Writes [] []
  | run {cells out} (s : Style) (p : List Char) : Writes cells out →
      Writes (p.map (·, s) ++ cells) (painted true s p ++ out)

/-- A character of a text in a style; a newline is plain. -/
def cell (s : Style) (c : Char) : Char × Style := (c, if c = '\n' then {} else s)

lemma map_cell_of_not_mem {p : List Char} (h : '\n' ∉ p) (s : Style) :
    p.map (cell s) = p.map (·, s) := by
  apply List.map_congr_left
  intro c hc
  have hne : c ≠ '\n' := by
    rintro rfl
    exact h hc
  rw [cell, if_neg hne]

lemma writes_paintedLines (s : Style) {ps : List (List Char)} (hps : ∀ p ∈ ps, '\n' ∉ p)
    {cells : List (Char × Style)} {out : List Char} (h : Writes cells out) :
    Writes ((['\n'].intercalate ps).map (cell s) ++ cells) (paintedLines true s ps ++ out) := by
  fun_induction paintedLines true s ps with
  | case1 => exact h
  | case2 p =>
    rw [List.intercalate_singleton, map_cell_of_not_mem (hps p (by simp))]
    exact .run s p h
  | case3 p ps hne ih =>
    obtain ⟨hp,hps⟩ := List.forall_mem_cons.mp hps
    obtain ⟨q,qs,rfl⟩ := List.exists_cons_of_ne_nil (by simpa using hne)
    have hrun := Writes.run s p (Writes.run {} ['\n'] (ih hps))
    rw [List.intercalate_cons_cons, List.map_append, List.map_append, map_cell_of_not_mem hp]
    simpa [cell, painted, Style.isPlain] using hrun

/-- The characters of tokens from a byte offset on, in the styles of the tokens. -/
def cellsFrom (os : List Overlay) : ℕ → List Token → List (Char × Style)
  | _, [] => []
  | offset, t :: ts =>
    t.text.map (cell (tokenStyle os offset t.category)) ++ cellsFrom os (offset + bytes t.text) ts

theorem writes_tokensFrom (os : List Overlay) (offset : ℕ) (ts : List Token)
    {cells : List (Char × Style)} {out : List Char} (h : Writes cells out) :
    Writes (cellsFrom os offset ts ++ cells) (tokensFrom true os offset ts ++ out) := by
  induction ts generalizing offset with
  | nil => exact h
  | cons t ts ih =>
    have hps : ∀ p ∈ splitOn '\n' t.text, '\n' ∉ p := fun p hp => not_mem_of_mem_splitBy rfl hp
    have hrun := writes_paintedLines (tokenStyle os offset t.category) hps (ih (offset + bytes t.text))
    rw [intercalate_splitOn] at hrun
    rw [cellsFrom, tokensFrom, List.append_assoc, List.append_assoc]
    exact hrun

lemma map_fst_cellsFrom (os : List Overlay) (offset : ℕ) (ts : List Token) :
    (cellsFrom os offset ts).map Prod.fst = ts.flatMap (·.text) := by
  induction ts generalizing offset with
  | nil => rfl
  | cons t ts ih =>
    rw [cellsFrom, List.map_append, ih, List.map_map, List.flatMap_cons]
    simp [Function.comp_def, cell]

/-- A buffer is its tokens and perhaps a last newline. -/
theorem writes_buffer (os : List Overlay) (text : List Char) (ts : List Token) :
    ∃ last : List (Char × Style), (last = [] ∨ last = [('\n', {})]) ∧
      Writes (cellsFrom os 0 ts ++ last) (buffer true os text ts) := by
  rw [buffer]
  split_ifs
  · exact ⟨[],.inl rfl,writes_tokensFrom os 0 ts .nil⟩
  · exact ⟨_,.inr rfl,writes_tokensFrom os 0 ts (.run {} ['\n'] .nil)⟩

/-- The background that the overlays ask for at a byte offset. -/
def backgroundAt (os : List Overlay) (offset : ℕ) : Color :=
  ((os.find? (·.extent.contains offset)).map (·.style.bg)).getD .default

lemma tokenStyle_eq (os : List Overlay) (offset : ℕ) (k : Category) :
    tokenStyle os offset k = { k.style with bg := backgroundAt os offset } := by
  rw [tokenStyle, backgroundAt]
  cases os.find? (·.extent.contains offset) with
  | none => cases k <;> rfl
  | some o => rfl

lemma cellsFrom_append (os : List Overlay) (offset : ℕ) (ts us : List Token) :
    cellsFrom os offset (ts ++ us) =
      cellsFrom os offset ts ++ cellsFrom os (offset + bytes (ts.flatMap (·.text))) us := by
  induction ts generalizing offset with
  | nil => rfl
  | cons t ts ih =>
    rw [List.cons_append, cellsFrom, cellsFrom, ih, List.append_assoc, List.flatMap_cons, bytes_append,
      Nat.add_assoc]

/-- A character is written in the style of its token. -/
lemma getElem?_cellsFrom (os : List Overlay) {ts us : List Token} {t : Token} {u v : List Char}
    {c : Char} (ht : t.text = u ++ c :: v) :
    (cellsFrom os 0 (ts ++ t :: us))[(ts.flatMap (·.text) ++ u).length]? =
      some (cell (tokenStyle os (bytes (ts.flatMap (·.text))) t.category) c) := by
  have hlen : (cellsFrom os 0 ts).length = (ts.flatMap (·.text)).length := by
    rw [← map_fst_cellsFrom os 0 ts, List.length_map]
  rw [cellsFrom_append, cellsFrom, ht, Nat.zero_add, List.length_append, ← hlen,
    List.getElem?_append_right (Nat.le_add_right _ _), Nat.add_sub_cancel_left]
  simp

section Terminal

/-- The background behind a control sequence with the given parameters. -/
def selected (bg : Color) (parameters : List Char) : Color :=
  match parameters with
  | ['0'] => .default
  | '4' :: '8' :: ';' :: '5' :: ';' :: digits =>
    let n := digits.foldl (fun n d => 10 * n + (d.toNat - 48)) 0
    ([.black, .red, .green, .yellow, .blue, .magenta, .cyan, .white, .brightBlack, .brightRed,
      .brightGreen, .brightYellow, .brightBlue, .brightMagenta, .brightCyan,
      .brightWhite] : List Color)[n]?.getD bg
  | _ => bg

/-- The characters that a terminal shows, each with its background, from a background on. -/
def shown (bg : Color) (t : List Char) : List (Char × Color) :=
  match t with
  | [] => []
  | '\x1b' :: '[' :: t =>
    shown (selected bg (t.takeWhile (· != 'm'))) (t.drop ((t.takeWhile (· != 'm')).length + 1))
  | c :: t => (c, bg) :: shown bg t
termination_by t.length
decreasing_by all_goals simp only [List.length_drop, List.length_cons]; omega

lemma shown_sgr {parameters : String} (h : 'm' ∉ parameters.toList) (bg : Color) (t : List Char) :
    shown bg (sgr parameters ++ t) = shown (selected bg parameters.toList) t := by
  have htake : (parameters.toList ++ 'm' :: t).takeWhile (· != 'm') = parameters.toList := by
    rw [List.takeWhile_append_of_pos]
    · simp
    · intro c hc
      rw [bne_iff_ne]
      rintro rfl
      exact h hc
  have hsgr : sgr parameters ++ t = '\x1b' :: '[' :: (parameters.toList ++ 'm' :: t) := by simp [sgr]
  rw [hsgr, shown, htake]
  simp

lemma shown_foreground (bg c : Color) (t : List Char) : shown bg (foreground c ++ t) = shown bg t := by
  cases c <;> first | rfl | exact shown_sgr (by decide) bg t

lemma shown_background (bg c : Color) (t : List Char) :
    shown bg (background c ++ t) = shown (if c = .default then bg else c) t := by
  cases c <;> first | rfl | exact shown_sgr (by decide) bg t

lemma shown_styleOn (s : Style) (bg : Color) (t : List Char) :
    shown bg (styleOn s ++ t) = shown (if s.bg = .default then bg else s.bg) t := by
  have hattribute : ∀ {parameters : String} (on : Bool) (bg : Color) (t : List Char),
      'm' ∉ parameters.toList → selected bg parameters.toList = bg →
      shown bg ((if on then sgr parameters else []) ++ t) = shown bg t := by
    intro parameters on bg t hm hbg
    cases on
    · rfl
    · rw [if_pos rfl, shown_sgr hm, hbg]
  simp only [styleOn, List.append_assoc]
  rw [shown_foreground, shown_background, hattribute _ _ _ (by decide) rfl,
    hattribute _ _ _ (by decide) rfl]

lemma shown_styleOff (bg : Color) (t : List Char) : shown bg (styleOff ++ t) = shown .default t := by
  rw [styleOff, List.append_assoc, shown_sgr (by decide), shown_sgr (by decide)]
  rfl

lemma shown_text {p : List Char} (h : '\x1b' ∉ p) (bg : Color) (t : List Char) :
    shown bg (p ++ t) = p.map (·, bg) ++ shown bg t := by
  induction p with
  | nil => rfl
  | cons c p ih =>
    rw [List.mem_cons, not_or] at h
    rw [List.cons_append, shown, ih h.2]
    · rfl
    · rintro u rfl
      exact absurd rfl h.1

lemma shown_painted (s : Style) {p : List Char} (h : '\x1b' ∉ p) (t : List Char) :
    shown .default (painted true s p ++ t) = p.map (·, s.bg) ++ shown .default t := by
  rw [painted]
  split_ifs with hplain
  · rw [shown_text h]
    cases p with
    | nil => rfl
    | cons c p =>
      obtain rfl : s = {} := by simpa [Style.isPlain] using hplain
      rfl
  · rw [List.append_assoc, List.append_assoc, shown_styleOn, shown_text h, shown_styleOff]
    split_ifs with hbg
    · rw [hbg]
    · rfl

/-- If the text has no control sequences of its own, a terminal shows each character on the
background of its style. -/
theorem Writes.shown_eq {cells : List (Char × Style)} {out : List Char} (h : Writes cells out)
    (hesc : '\x1b' ∉ cells.map Prod.fst) :
    shown .default out = cells.map fun x => (x.1, x.2.bg) := by
  induction h with
  | nil => rw [shown]; rfl
  | run s p h ih =>
    rw [List.map_append, List.mem_append, not_or] at hesc
    have hp : '\x1b' ∉ p := by simpa [Function.comp_def] using hesc.1
    rw [shown_painted s hp, ih hesc.2]
    simp [Function.comp_def]

end Terminal

section Overlays

/-- In one line, the overlays ask for one background. -/
theorem backgroundAt_eq {text x y b : List Char} {c : Char} (ds : List Diagnostic)
    (htext : text = x ++ y ++ c :: b) (hy : '\n' ∉ y) (hc : InLine c b) :
    backgroundAt (overlays text ds) (bytes x) = backgroundAt (overlays text ds) (bytes (x ++ y)) := by
  have hcontains : ∀ o ∈ overlays text ds,
      o.extent.contains (bytes x) = o.extent.contains (bytes (x ++ y)) := by
    intro o ho
    obtain ⟨d,-,hd⟩ := List.mem_filterMap.mp ho
    obtain ⟨e,he,rfl⟩ := Option.map_eq_some_iff.mp hd
    obtain ⟨l,hl,rfl⟩ := LineIndex.exists_line_of_lineRange he
    obtain ⟨c₁,b₁,hy₁⟩ : ∃ c₁ b₁, y ++ c :: b = c₁ :: b₁ := by
      cases y with
      | nil => exact ⟨c,b,rfl⟩
      | cons e y => exact ⟨e,y ++ c :: b,rfl⟩
    have htext₁ : text = x ++ c₁ :: b₁ := by rw [htext, List.append_assoc, hy₁]
    rw [Bool.eq_iff_iff, Line.contains_iff hl htext₁ (hc.head hy hy₁), Line.contains_iff hl htext hc,
      List.count_append, List.count_eq_zero_of_not_mem hy, Nat.add_zero]
  rw [backgroundAt, backgroundAt, List.find?_congr hcontains]

end Overlays

/-- The text of a highlighter on the terminal, with colours on, whatever the highlighter was asked
before. Each character but a newline is written in the style of its span, on the background that the
overlays ask for at the start of the span; and a terminal shows it so. That is the background that
they ask for at the character itself, if it is part of the line in which the span starts. -/
theorem buffer_backgrounds (shelf : Catalog.Shelf) (enabled : Bool) (steps : List Highlighter.Step)
    (read : FileReader) (lang : Language) (text : List Char) :
    let h := ((Highlighter.start shelf enabled).run steps).highlight read lang text
    let os := h.2.overlays
    ∃ cells : List (Char × Style),
      (cells.map Prod.fst = text ∨ cells.map Prod.fst = text ++ ['\n']) ∧
      Writes cells (buffer true os text h.1) ∧
      ('\x1b' ∉ text →
        shown .default (buffer true os text h.1) = cells.map fun x => (x.1, x.2.bg)) ∧
      ∀ a c b, text = a ++ c :: b → c ≠ '\n' →
        ∃ x y s, a = x ++ y ∧ s ∈ spans h.1 ∧ s.start = bytes x ∧ s.contains (bytes a) = true ∧
          cells[a.length]? = some (c, { s.category.style with bg := backgroundAt os (bytes x) }) ∧
          ('\n' ∉ y → InLine c b → backgroundAt os (bytes x) = backgroundAt os (bytes a)) := by
  intro h os
  have hts := ((Highlighter.coherent_start shelf enabled).run steps).tokens_highlight read lang text
  have htext : h.1.flatMap (·.text) = text := by rw [hts, flatMap_text_tokenize]
  have hos : os = overlays text h.2.diagnostics := by
    rw [show os = h.2.overlays from rfl, Highlighter.overlays, Highlighter.lastText_highlight]
  obtain ⟨last,hlast,hwrites⟩ := writes_buffer os text h.1
  have hchars : (cellsFrom os 0 h.1 ++ last).map Prod.fst = text ++ last.map Prod.fst := by
    rw [List.map_append, map_fst_cellsFrom, htext]
  refine ⟨_,?_,hwrites,?_,?_⟩
  · rw [hchars]
    rcases hlast with rfl | rfl <;> simp
  · intro hesc
    apply hwrites.shown_eq
    rw [hchars]
    rcases hlast with rfl | rfl <;> simp [hesc]
  · intro a c b hcut hc
    obtain ⟨ts,t,us,u,v,hsplit,ht,rfl⟩ := exists_token_at (htext.trans hcut)
    refine ⟨ts.flatMap (·.text),u,spanBehind ts t,rfl,?_,rfl,?_,?_,?_⟩
    · rw [hsplit, spans, spansFrom_append]
      simp [spanBehind]
    · have hpos := c.utf8Size_pos
      simp only [Extent.contains, spanBehind, ht, bytes_append, bytes_cons, Bool.and_eq_true,
        decide_eq_true_eq]
      omega
    · have hcell := @getElem?_cellsFrom os ts us t u v c ht
      rw [← hsplit] at hcell
      rw [List.getElem?_append_left (List.getElem?_eq_some_iff.mp hcell).1, hcell, cell, if_neg hc,
        tokenStyle_eq]
      rfl
    · intro hu hline
      rw [hos]
      exact backgroundAt_eq _ hcut hu hline

/-- A comment that starts in a line with a warning takes its background to the next line, on which
there is no overlay. -/
theorem buffer_bleeds :
    let text := ['v', 'a', 'l', ' ', 'x', ' ', '/', '*', '\n', '*', '/']
    let cat := Catalog.tabulate fun _ => ⟨[], []⟩
    let h := (Highlighter.start ⟨.builtin, some cat⟩ true).highlight (fun _ => .ok []) .kotlin text
    h.2.overlays = [⟨⟨0, 8⟩, .warning⟩] ∧ backgroundAt h.2.overlays 9 = .default ∧
      (shown .default (buffer true h.2.overlays text h.1))[9]? = some ('*', .yellow) := by
  intro text cat h
  have hts : tokenize .kotlin [] text = [⟨.normal, ['v', 'a', 'l']⟩, ⟨.normal, [' ']⟩,
      ⟨.normal, ['x']⟩, ⟨.normal, [' ']⟩, ⟨.comment, ['/', '*', '\n', '*', '/']⟩] := by
    have hval := @tokenize_of_reach .kotlin [] 'v' ['a', 'l'] (text.drop 3) rfl
    have hblank := @tokenize_of_reach .kotlin [] ' ' [] (text.drop 4) rfl
    have hx := @tokenize_of_reach .kotlin [] 'x' [] (text.drop 5) rfl
    have hblank' := @tokenize_of_reach .kotlin [] ' ' [] (text.drop 6) rfl
    have hcomment := @tokenize_of_reach .kotlin [] '/' (text.drop 7) [] rfl
    rw [tokenize_nil] at hcomment
    exact hval.trans (congrArg _ (hblank.trans (congrArg _ (hx.trans (congrArg _ (hblank'.trans
      (congrArg _ hcomment)))))))
  have hds : cat.analyze .kotlin text =
      [⟨1, 0, .warning, "missing_initializer", "'val' declaration has no initializer"⟩] := by
    have hfound : Analysis.found .kotlin [] [] text =
        [⟨1, 0, .warning, "missing_initializer", "'val' declaration has no initializer"⟩] := by
      decide +kernel
    rw [Catalog.analyze, Analysis.analyze_eq_arrange]
    exact (congrArg Diagnostic.arrange hfound).trans (Diagnostic.arrange_singleton _)
  have hos : h.2.overlays = [⟨⟨0, 8⟩, .warning⟩] := by
    rw [Highlighter.overlays, Highlighter.lastText_highlight, Highlighter.diagnostics_highlight]
    exact (congrArg (overlays text) hds).trans (by decide)
  have htokens : h.1 = tokenize .kotlin [] text :=
    (Highlighter.coherent_start _ true).tokens_highlight _ .kotlin text
  rw [hos, htokens, hts]
  exact ⟨rfl,by decide,by decide +kernel⟩

end EditAssist.Screen
