import EditAssist.Proofs.Analysis.Places
import Mathlib.Data.List.Forall2

/-! What a highlighter remembers never shows. Whatever it was asked before, it answers as one that
has no memory of texts and tokens would; and its overlays lie on the lines of the text it was given
last. -/
namespace EditAssist.Highlighter
open Text

/-- What can be asked of a highlighter. Files may change before it is asked to highlight again. -/
inductive Step where
  | highlight (read : FileReader) (lang : Language) (text : List Char)
  | toggle
  | set (enabled : Bool)
  | invalidate

def step (h : Highlighter) : Step → Highlighter
  | .highlight read lang text => (h.highlight read lang text).2
  | .toggle => h.toggle
  | .set enabled => { h with diagnosticsEnabled := enabled }
  | .invalidate => h.invalidate

def run (h : Highlighter) (steps : List Step) : Highlighter := steps.foldl step h

/-- A highlighter that was asked nothing yet. -/
def start (shelf : Catalog.Shelf) (enabled : Bool) : Highlighter :=
  { checker := { shelf }, diagnosticsEnabled := enabled }

namespace Step

def reader? : Step → Option FileReader
  | .highlight read _ _ => some read
  | _ => none

def text? : Step → Option (List Char)
  | .highlight _ _ text => some text
  | _ => none

/-- Whether diagnostics are asked for after a step. -/
def setting (enabled : Bool) : Step → Bool
  | .toggle => !enabled
  | .set enabled => enabled
  | _ => enabled

end Step

/-- The catalog of a shelf for one who highlights after some steps: it is read from its source once,
by the first who highlights. -/
def catalogAfter (shelf : Catalog.Shelf) (steps : List Step) (read : FileReader) : Catalog :=
  shelf.catalog ((steps.findSome? Step.reader?).getD read)

def enabledAfter (enabled : Bool) (steps : List Step) : Bool := steps.foldl Step.setting enabled

/-- The text of the last step that highlights one. -/
def lastOf (steps : List Step) : Option (List Char) := steps.reverse.findSome? Step.text?

/-- Highlight a text as one who remembers no tokens. -/
def recompute (h : Highlighter) (read : FileReader) (lang : Language) (text : List Char) :
    List Token × Highlighter :=
  let (cat, shelf) := h.checker.shelf.consult read
  let tokens := Token.tokenize lang (cat.keywords lang) text
  let last := if h.diagnosticsEnabled then cat.analyze lang text else []
  (tokens, { h with checker := ⟨shelf, last⟩, cache := some ⟨text, lang, tokens⟩, lastText := text })

/-- What a highlighter remembers is what it would find out again: tokens were cut with the catalog
that has been read, and diagnostics are those of the last text. -/
structure Coherent (h : Highlighter) : Prop where
  tokens_eq : ∀ hl, h.cache = some hl → ∃ cat, h.checker.shelf.loaded = some cat ∧
    hl.tokens = Token.tokenize hl.lang (cat.keywords hl.lang) hl.text
  diagnostics_eq : h.diagnostics = [] ∨ ∃ (cat : Catalog) (lang : Language),
    h.diagnostics = cat.analyze lang h.lastText

lemma coherent_start (shelf : Catalog.Shelf) (enabled : Bool) : Coherent (start shelf enabled) where
  tokens_eq hl hcache := by simp [start] at hcache
  diagnostics_eq := .inl rfl

lemma cache_of_cached? {h : Highlighter} {lang : Language} {text : List Char} {tokens : List Token}
    (hm : h.cached? lang text = some tokens) : h.cache = some ⟨text, lang, tokens⟩ := by
  unfold cached? at hm
  cases hcache : h.cache with
  | none => simp [hcache] at hm
  | some hl =>
    obtain ⟨rfl,rfl,rfl⟩ : hl.lang = lang ∧ hl.text = text ∧ hl.tokens = tokens := by
      simpa [hcache, and_assoc] using hm
    rfl

lemma consult_of_loaded {shelf : Catalog.Shelf} {cat : Catalog} (h : shelf.loaded = some cat)
    (read : FileReader) : shelf.consult read = (cat, shelf) := by
  obtain ⟨source,loaded⟩ := shelf
  obtain rfl : loaded = some cat := h
  rfl

lemma highlight_of_miss {h : Highlighter} {lang : Language} {text : List Char}
    (hm : h.cached? lang text = none) (read : FileReader) :
    h.highlight read lang text = h.recompute read lang text := by
  have hmiss (checker : Checker) :
      cached? { h with checker, lastText := text } lang text = none := hm
  unfold highlight recompute
  simp only [hmiss]
  cases h.diagnosticsEnabled <;> rfl

lemma highlight_of_hit {h : Highlighter} {lang : Language} {text : List Char} {tokens : List Token}
    {cat : Catalog} (hm : h.cached? lang text = some tokens)
    (hl : h.checker.shelf.loaded = some cat) (read : FileReader) :
    h.highlight read lang text =
      (tokens, { h with
        checker := ⟨h.checker.shelf, if h.diagnosticsEnabled then cat.analyze lang text else []⟩,
        lastText := text }) := by
  have hhit (checker : Checker) :
      cached? { h with checker, lastText := text } lang text = some tokens := hm
  unfold highlight
  simp only [hhit, Checker.check, Checker.analyze, consult_of_loaded hl]
  cases h.diagnosticsEnabled <;> rfl

/-- A coherent highlighter answers as one that remembers no tokens, and is left like it. -/
theorem Coherent.highlight_eq {h : Highlighter} (hc : Coherent h) (read : FileReader)
    (lang : Language) (text : List Char) :
    h.highlight read lang text = h.recompute read lang text := by
  cases hm : h.cached? lang text with
  | none => exact highlight_of_miss hm read
  | some tokens =>
    have hcache := cache_of_cached? hm
    obtain ⟨cat,hl,htokens⟩ := hc.tokens_eq _ hcache
    rw [highlight_of_hit hm hl, recompute, consult_of_loaded hl]
    dsimp only at htokens ⊢
    rw [← htokens, ← hcache]

lemma Coherent.tokens_highlight {h : Highlighter} (hc : Coherent h) (read : FileReader)
    (lang : Language) (text : List Char) :
    (h.highlight read lang text).1 =
      Token.tokenize lang ((h.checker.shelf.catalog read).keywords lang) text := by
  rw [hc.highlight_eq]
  rfl

/-- One step keeps what is remembered coherent. -/
theorem Coherent.step {h : Highlighter} (hc : Coherent h) (st : Step) : Coherent (h.step st) := by
  cases st with
  | highlight read lang text =>
    rw [Highlighter.step, hc.highlight_eq]
    constructor
    · intro hl hcache
      obtain rfl := Option.some.inj hcache
      exact ⟨h.checker.shelf.catalog read,rfl,rfl⟩
    · cases hen : h.diagnosticsEnabled with
      | false => exact .inl (by simp [diagnostics, recompute, hen])
      | true =>
        refine .inr ⟨h.checker.shelf.catalog read,lang,?_⟩
        simp [diagnostics, recompute, hen, Catalog.Shelf.consult]
  | toggle => exact ⟨hc.tokens_eq,hc.diagnostics_eq⟩
  | set enabled => exact ⟨hc.tokens_eq,hc.diagnostics_eq⟩
  | invalidate => exact ⟨fun hl hcache => by contradiction,.inl rfl⟩

theorem Coherent.run {h : Highlighter} (hc : Coherent h) (steps : List Step) :
    Coherent (h.run steps) := by
  induction steps generalizing h with
  | nil => exact hc
  | cons st steps ih => exact ih (hc.step st)

/-- The first who highlights decides on the catalog. -/
theorem Coherent.catalog_run {h : Highlighter} (hc : Coherent h) (steps : List Step)
    (read : FileReader) :
    (h.run steps).checker.shelf.catalog read = catalogAfter h.checker.shelf steps read := by
  induction steps generalizing h with
  | nil => rfl
  | cons st steps ih =>
    refine (ih (hc.step st)).trans ?_
    cases st with
    | highlight read' lang text =>
      rw [Highlighter.step, hc.highlight_eq]
      rfl
    | toggle => rfl
    | set enabled => rfl
    | invalidate => rfl

lemma diagnosticsEnabled_step (h : Highlighter) (st : Step) :
    (h.step st).diagnosticsEnabled = st.setting h.diagnosticsEnabled := by
  cases st with
  | highlight read lang text =>
    rw [step, highlight]
    dsimp only
    split <;> rfl
  | toggle => rfl
  | set enabled => rfl
  | invalidate => rfl

theorem diagnosticsEnabled_run (h : Highlighter) (steps : List Step) :
    (h.run steps).diagnosticsEnabled = enabledAfter h.diagnosticsEnabled steps :=
  (List.foldl_hom diagnosticsEnabled fun h st => (diagnosticsEnabled_step h st).symm).symm

lemma lastOf_concat (steps : List Step) (st : Step) :
    lastOf (steps ++ [st]) = st.text?.or (lastOf steps) := by
  rw [lastOf, List.reverse_concat, List.findSome?_cons]
  cases st.text? <;> rfl

/-- Diagnostics that are remembered after some steps are those of the last text among them. -/
lemma lastOf_run {h : Highlighter} (hd : h.diagnostics = []) (steps : List Step) :
    (h.run steps).diagnostics = [] ∨ lastOf steps = some (h.run steps).lastText := by
  induction steps using List.reverseRecOn with
  | nil => exact .inl hd
  | append_singleton steps st ih =>
    rw [run, List.foldl_concat, lastOf_concat]
    cases st with
    | highlight read lang text =>
      rw [step, lastText_highlight]
      exact .inr rfl
    | toggle => exact ih
    | set enabled => exact ih
    | invalidate => exact .inl rfl

/-- An overlay that covers the line of a diagnostic of a text, its ending excluded, with the
severity of the diagnostic. -/
def Covers (text : List Char) (d : Diagnostic) (o : Overlay) : Prop :=
  (∃ l : Line, l.IsAt text d.line ∧ o.extent = l.extent) ∧ o.severity = d.severity

lemma covers_of_isOn {text : List Char} {d : Diagnostic} {o : Overlay} (h : o.IsOn text d) :
    Covers text d o :=
  ⟨LineIndex.exists_line_of_lineRange h.1,h.2⟩

lemma Coherent.forall₂_overlays {h : Highlighter} (hc : Coherent h) :
    List.Forall₂ (Covers h.lastText) h.diagnostics h.overlays := by
  rw [overlays]
  rcases hc.diagnostics_eq with hd | ⟨cat,lang,hd⟩
  · rw [hd]
    exact .nil
  · rw [hd]
    exact (forall₂_overlays_analyze cat lang h.lastText).imp fun _ _ => covers_of_isOn

/-- Whatever was asked of a highlighter before, it cuts each text into the tokens that the catalog
calls for, and has the diagnostics of that text then if they are asked for, and else none. At any
time its overlays are one for each diagnostic it has, in order, with the severity of the diagnostic
and on its line in the text that was given last. -/
theorem highlight_run_transparent (shelf : Catalog.Shelf) (enabled : Bool) (steps : List Step) :
    let h := (start shelf enabled).run steps
    (∀ read lang text,
      let cat := catalogAfter shelf steps read
      (h.highlight read lang text).1 = Token.tokenize lang (cat.keywords lang) text ∧
      (h.highlight read lang text).2.diagnostics =
        if enabledAfter enabled steps then cat.analyze lang text else []) ∧
    List.Forall₂ (fun d o => ∃ text ∈ lastOf steps, Covers text d o) h.diagnostics h.overlays := by
  intro h
  have hc : Coherent h := (coherent_start shelf enabled).run steps
  refine ⟨fun read lang text => ?_,?_⟩
  · have hcat : h.checker.shelf.catalog read = catalogAfter shelf steps read :=
      (coherent_start shelf enabled).catalog_run steps read
    have hen : h.diagnosticsEnabled = enabledAfter enabled steps := diagnosticsEnabled_run _ steps
    intro cat
    constructor
    · rw [hc.highlight_eq, recompute, Catalog.Shelf.consult, hcat]
    · rw [diagnostics_highlight, hcat, hen]
  · rcases lastOf_run (rfl : (start shelf enabled).diagnostics = []) steps with hd | hlast
    · rw [overlays, hd]
      exact .nil
    · exact hc.forall₂_overlays.imp fun d o hdo => ⟨h.lastText,hlast,hdo⟩

end EditAssist.Highlighter
