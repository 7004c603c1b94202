import EditAssist.Proofs.Screen.Backgrounds

/-! A text on the terminal is the text. Without colours it is written as it is, and its last line gets
an ending if it has none. With colours the same characters are written between control sequences, and
every sequence that turns something on is followed by one that turns all off before the line ends. -/
namespace EditAssist.Screen
open Text Token

section Plain

lemma painted_false (s : Style) (t : List Char) : painted false s t = t := by simp [painted]

lemma paintedLines_false (s : Style) (ps : List (List Char)) :
    paintedLines false s ps = ['\n'].intercalate ps := by
  fun_induction paintedLines false s ps with
  | case1 => rfl
  | case2 p => rw [painted_false, List.intercalate_singleton]
  | case3 p ps hne ih =>
    obtain ⟨q,qs,rfl⟩ := List.exists_cons_of_ne_nil (by simpa using hne)
    rw [ih, painted_false, List.intercalate_cons_cons]
    simp

lemma tokensFrom_false (os : List Overlay) (offset : ℕ) (ts : List Token) :
    tokensFrom false os offset ts = ts.flatMap (·.text) := by
  induction ts generalizing offset with
  | nil => rfl
  | cons t ts ih => rw [tokensFrom, paintedLines_false, intercalate_splitOn, ih, List.flatMap_cons]

end Plain

section Reading

/-- What a terminal is sent: a character, or a control sequence that selects a rendition. -/
inductive Item where
  | char (c : Char)
  | select (parameters : List Char)
  deriving DecidableEq, Repr

/-- The characters between the opening of a control sequence and its end. -/
def isParameter (c : Char) : Bool := c.isDigit || c = ';'

/-- Take the control sequences out of what is written: `ESC [`, digits and semicolons, `m`. -/
def items (t : List Char) : List Item :=
  match t with
  | [] => []
  | '\x1b' :: '[' :: t =>
    let parameters := t.takeWhile isParameter
    if t[parameters.length]? = some 'm' then
      .select parameters :: items (t.drop (parameters.length + 1))
    else .char '\x1b' :: items ('[' :: t)
  | c :: t => .char c :: items t
termination_by t.length
decreasing_by all_goals simp only [List.length_drop, List.length_cons]; omega

/-- The characters that are left without the control sequences. -/
def visible (is : List Item) : List Char :=
  is.filterMap fun
    | .char c => some c
    | .select _ => none

/-- The control sequences in force behind a further item. One without parameters or with `0` turns
all off. -/
def Item.turn (pen : List (List Char)) : Item → List (List Char)
  | .char _ => pen
  | .select parameters => if parameters = [] ∨ parameters = ['0'] then [] else pen ++ [parameters]

/-- The control sequences in force behind some items: those since all was turned off. -/
def inForce (is : List Item) : List (List Char) := is.foldl Item.turn []

lemma items_text {p : List Char} (h : '\x1b' ∉ p) (t : List Char) :
    items (p ++ t) = p.map .char ++ items t := by
  induction p with
  | nil => rfl
  | cons c p ih =>
    rw [List.mem_cons, not_or] at h
    rw [List.cons_append, items, ih h.2]
    · rfl
    · rintro u rfl
      exact absurd rfl h.1

lemma items_sgr {parameters : String} (h : parameters.toList.all isParameter = true)
    (t : List Char) : items (sgr parameters ++ t) = .select parameters.toList :: items t := by
  have htake : (parameters.toList ++ 'm' :: t).takeWhile isParameter = parameters.toList := by
    rw [List.takeWhile_append_of_pos (List.all_eq_true.mp h)]
    simp [isParameter]
  have hsgr : sgr parameters ++ t = '\x1b' :: '[' :: (parameters.toList ++ 'm' :: t) := by simp [sgr]
  rw [hsgr, items, htake]
  simp

/-- What is nothing but control sequences, whatever follows it. -/
def Selects (x : List Char) : Prop :=
  ∃ ps : List (List Char), ∀ t, items (x ++ t) = ps.map .select ++ items t

lemma selects_nil : Selects [] := ⟨[],fun _ => rfl⟩

lemma selects_sgr {parameters : String} (h : parameters.toList.all isParameter = true) :
    Selects (sgr parameters) :=
  ⟨[parameters.toList],items_sgr h⟩

lemma Selects.append {x y : List Char} (hx : Selects x) (hy : Selects y) : Selects (x ++ y) := by
  obtain ⟨ps,hps⟩ := hx
  obtain ⟨qs,hqs⟩ := hy
  refine ⟨ps ++ qs,?_⟩
  intro t
  rw [List.append_assoc, hps, hqs, List.map_append, List.append_assoc]

lemma selects_foreground (c : Color) : Selects (foreground c) := by
  cases c <;> first | exact selects_nil | exact selects_sgr (by decide)

lemma selects_background (c : Color) : Selects (background c) := by
  cases c <;> first | exact selects_nil | exact selects_sgr (by decide)

lemma selects_styleOn (s : Style) : Selects (styleOn s) := by
  have hattribute {parameters : String} (on : Bool)
      (h : parameters.toList.all isParameter = true) :
      Selects (if on then sgr parameters else []) := by
    cases on
    · exact selects_nil
    · exact selects_sgr h
  exact (((selects_foreground s.fg).append (selects_background s.bg)).append
    (hattribute s.bold (by decide))).append (hattribute s.italic (by decide))

lemma items_styleOff (t : List Char) :
    items (styleOff ++ t) = [.select ['0'], .select ['0']] ++ items t := by
  rw [styleOff, List.append_assoc, items_sgr (by decide), items_sgr (by decide)]
  rfl

/-- Items that leave nothing in force at their end, nor at any newline among them. -/
structure Tidy (is : List Item) : Prop where
  inForce_eq : inForce is = []
  inForce_newline : ∀ before after, is = before ++ .char '\n' :: after → inForce before = []

lemma Tidy.append {xs ys : List Item} (hx : Tidy xs) (hy : Tidy ys) : Tidy (xs ++ ys) := by
  have hbehind (zs : List Item) : inForce (xs ++ zs) = inForce zs := by
    have h := hx.inForce_eq
    rw [inForce] at h
    rw [inForce, List.foldl_append, h, inForce]
  constructor
  · rw [hbehind, hy.inForce_eq]
  · intro before after h
    rcases List.append_eq_append_iff.mp h with ⟨zs,rfl,hzs⟩ | ⟨zs,hzs,h⟩
    · rw [hbehind]
      exact hy.inForce_newline zs after hzs
    · cases zs with
      | nil =>
        rw [List.append_nil] at hzs
        rw [← hzs, hx.inForce_eq]
      | cons z zs =>
        obtain ⟨rfl,rfl⟩ := List.cons.inj h
        exact hx.inForce_newline before zs hzs

lemma inForce_chars (p : List Char) (pen : List (List Char)) :
    (p.map Item.char).foldl Item.turn pen = pen := by
  induction p with
  | nil => rfl
  | cons c p ih => exact ih

lemma tidy_chars (p : List Char) : Tidy (p.map .char) := by
  refine ⟨inForce_chars p [],?_⟩
  intro before after h
  obtain ⟨u,v,rfl,rfl,-⟩ := List.map_eq_append_iff.mp h
  exact inForce_chars u []

lemma tidy_styled {p : List Char} (h : '\n' ∉ p) (ps : List (List Char)) :
    Tidy (ps.map .select ++ p.map .char ++ [.select ['0'], .select ['0']]) := by
  constructor
  · rw [inForce, List.foldl_append]
    simp [Item.turn]
  · intro before after hsplit
    have hmem : Item.char '\n' ∈ ps.map .select ++ p.map .char ++ [.select ['0'], .select ['0']] := by
      rw [hsplit]
      simp
    simp [h] at hmem

lemma visible_append (xs ys : List Item) : visible (xs ++ ys) = visible xs ++ visible ys :=
  List.filterMap_append

lemma visible_chars (p : List Char) : visible (p.map .char) = p := by
  simp [visible, List.filterMap_map]

lemma visible_selects (ps : List (List Char)) : visible (ps.map .select) = [] := by
  simp [visible, List.filterMap_map]

/-- Text in a style is its characters, and leaves nothing in force. -/
lemma items_painted {s : Style} {p : List Char} (hesc : '\x1b' ∉ p) (hplain : '\n' ∈ p → s = {})
    (t : List Char) :
    ∃ is, items (painted true s p ++ t) = is ++ items t ∧ Tidy is ∧ visible is = p := by
  rw [painted]
  split_ifs with hs
  · exact ⟨_,items_text hesc t,tidy_chars p,visible_chars p⟩
  · obtain ⟨ps,hps⟩ := selects_styleOn s
    have hline : '\n' ∉ p := by
      intro hmem
      simp [hplain hmem, Style.isPlain] at hs
    refine ⟨_,?_,tidy_styled hline ps,?_⟩
    · rw [List.append_assoc, List.append_assoc, hps, items_text hesc, items_styleOff]
      simp only [List.append_assoc]
    · rw [visible_append, visible_append, visible_selects, visible_chars]
      simp [visible]

/-- If the text has no control sequences of its own and its newlines are plain, taking out the
control sequences leaves the text, and nothing is in force at a newline or at the end. -/
theorem Writes.tidy_items {cells : List (Char × Style)} {out : List Char} (h : Writes cells out)
    (hesc : '\x1b' ∉ cells.map Prod.fst) (hplain : ∀ x ∈ cells, x.1 = '\n' → x.2 = {}) :
    Tidy (items out) ∧ visible (items out) = cells.map Prod.fst := by
  induction h with
  | nil =>
    rw [items]
    exact ⟨tidy_chars [],rfl⟩
  | run s p h ih =>
    rw [List.map_append, List.mem_append, not_or] at hesc
    have hp : '\x1b' ∉ p := by simpa [Function.comp_def] using hesc.1
    have hs : '\n' ∈ p → s = {} := by
      intro hmem
      exact hplain ('\n', s) (List.mem_append_left _ (List.mem_map_of_mem hmem)) rfl
    obtain ⟨is,his,htidy,hvisible⟩ := items_painted hp hs _
    obtain ⟨htidy',hvisible'⟩ := ih hesc.2 fun x hx => hplain x (List.mem_append_right _ hx)
    rw [his, visible_append, hvisible, hvisible']
    exact ⟨htidy.append htidy',by simp [Function.comp_def]⟩

end Reading

lemma plain_of_mem_cellsFrom {os : List Overlay} {offset : ℕ} {ts : List Token} {x : Char × Style}
    (hx : x ∈ cellsFrom os offset ts) (hc : x.1 = '\n') : x.2 = {} := by
  induction ts generalizing offset with
  | nil => contradiction
  | cons t ts ih =>
    rcases List.mem_append.mp hx with hx | hx
    · obtain ⟨c,-,rfl⟩ := List.mem_map.mp hx
      exact if_pos hc
    · exact ih hx

/-- The ending that a text is given on the terminal. -/
def ending (text : List Char) : List Char :=
  if text ≠ [] ∧ text.getLast? ≠ some '\n' then ['\n'] else []

lemma buffer_eq (color : Bool) (os : List Overlay) (text : List Char) (ts : List Token) :
    buffer color os text ts = tokensFrom color os 0 ts ++ ending text := by
  rw [buffer, ending]
  congr 1
  cases text with
  | nil => rfl
  | cons c text => by_cases hlast : (c :: text).getLast? = some '\n' <;> simp [hlast]

lemma writes_ending (text : List Char) : Writes ((ending text).map (·, {})) (ending text) := by
  rw [ending]
  split_ifs
  · exact .run {} ['\n'] .nil
  · exact .nil

/-- The text of a highlighter on the terminal, whatever the highlighter was asked before. Without
colours it is the text, with an ending for a last line that has none. With colours, if the text has no
control sequences of its own, it is the same once the control sequences are taken out, and none of
them is in force at a newline or at the end. -/
theorem buffer_reproduces_text (shelf : Catalog.Shelf) (enabled : Bool)
    (steps : List Highlighter.Step) (read : FileReader) (lang : Language) (text : List Char) :
    let h := ((Highlighter.start shelf enabled).run steps).highlight read lang text
    let plain := buffer false h.2.overlays text h.1
    let sent := items (buffer true h.2.overlays text h.1)
    plain = text ++ (if text ≠ [] ∧ text.getLast? ≠ some '\n' then ['\n'] else []) ∧
    ('\x1b' ∉ text → visible sent = plain ∧
      (∀ before after, sent = before ++ .char '\n' :: after → inForce before = []) ∧
      inForce sent = []) := by
  intro h plain sent
  have hts := ((Highlighter.coherent_start shelf enabled).run steps).tokens_highlight read lang text
  have htext : h.1.flatMap (·.text) = text := by rw [hts, flatMap_text_tokenize]
  have hplain : plain = text ++ ending text := by
    rw [show plain = buffer false _ _ _ from rfl, buffer_eq, tokensFrom_false, htext]
  have hchars : (cellsFrom h.2.overlays 0 h.1 ++ (ending text).map (·, ({} : Style))).map Prod.fst =
      text ++ ending text := by
    rw [List.map_append, map_fst_cellsFrom, htext]
    simp [Function.comp_def]
  refine ⟨hplain,?_⟩
  intro hesc
  have hesc' : '\x1b' ∉ text ++ ending text := by
    rw [List.mem_append, not_or, ending]
    refine ⟨hesc,?_⟩
    split_ifs <;> simp
  have hnewline : ∀ x ∈ cellsFrom h.2.overlays 0 h.1 ++ (ending text).map (·, ({} : Style)),
      x.1 = '\n' → x.2 = {} := by
    intro x hx hc
    rcases List.mem_append.mp hx with hx | hx
    · exact plain_of_mem_cellsFrom hx hc
    · obtain ⟨c,-,rfl⟩ := List.mem_map.mp hx
      rfl
  have hwrites := writes_tokensFrom h.2.overlays 0 h.1 (writes_ending text)
  rw [← buffer_eq] at hwrites
  obtain ⟨htidy,hvisible⟩ := hwrites.tidy_items (hchars ▸ hesc') hnewline
  exact ⟨by rw [hvisible, hchars, hplain],htidy.inForce_newline,htidy.inForce_eq⟩

/-- A comment that goes on behind a line with a background. -/
theorem buffer_reproduces_text_multiline :
    let text := ['v', 'a', 'l', ' ', 'x', ' ', '/', '*', '\n', '*', '/']
    let h := (Highlighter.start ⟨.builtin, none⟩ true).highlight (fun _ => .ok []) .kotlin text
    let sent := items (buffer true h.2.overlays text h.1)
    '\x1b' ∉ text ∧ buffer false h.2.overlays text h.1 = text ++ ['\n'] ∧
      visible sent = text ++ ['\n'] ∧ inForce sent = [] := by
  intro text h sent
  have hesc : '\x1b' ∉ text := by decide
  obtain ⟨hplain,hcolored⟩ :=
    buffer_reproduces_text ⟨.builtin, none⟩ true [] (fun _ => .ok []) .kotlin text
  obtain ⟨hvisible,-,hend⟩ := hcolored hesc
  exact ⟨hesc,hplain,hvisible.trans hplain,hend⟩

end EditAssist.Screen
