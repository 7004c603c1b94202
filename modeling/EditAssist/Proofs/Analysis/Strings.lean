import EditAssist.Proofs.Analysis.Brackets
import EditAssist.Proofs.Token.ClosingQuote
import EditAssist.Proofs.Token.Restart

/-! Strings that nothing closes. Such a string takes the rest of the text, so it is the last token and
there is at most one; and once its quote is put behind the text it is closed, unless the text ends in a
backslash that escapes the quote. -/
namespace EditAssist.Token
open Text

section Unclosed
variable {lang : Language} {keywords : List String} {text : List Char} {ts us : List Token} {t : Token}
  {q : Char} {body : List Char}

/-- What stands behind a quote and nowhere has the quote again, unless it is escaped. -/
def Unclosed (q : Char) (body : List Char) : Prop := ∀ v, v <+: body → ¬ EndsInQuote q v

lemma quoteReach?_eq_none_iff (hq : q = '"' ∨ q = '\'') :
    quoteReach? q false body = none ↔ Unclosed q body := by
  have hfind := finds_closingQuote hq body
  cases ho : quoteReach? q false body with
  | none =>
    rw [ho] at hfind
    exact ⟨fun _ => hfind,fun _ => rfl⟩
  | some n =>
    rw [ho] at hfind
    have hclosed : ¬ Unclosed q body := fun h => h _ (List.take_prefix n body) hfind.1
    simp [hclosed]

/-- The quote closes what it is put behind exactly if nothing escapes it there. -/
lemma unclosed_concat_iff (h : Unclosed q body) : Unclosed q (body ++ [q]) ↔ Escapes body := by
  have hwhole : EndsInQuote q (body ++ [q]) ↔ ¬ Escapes body := by simp [endsInQuote_concat]
  constructor
  · intro hopen
    have hend := hopen _ (List.prefix_refl _)
    rwa [hwhole, not_not] at hend
  · intro hesc v hv
    rcases List.prefix_concat_iff.mp hv with rfl | hv
    · rwa [hwhole, not_not]
    · exact h v hv

lemma isOpenString_iff_unclosed (ht : t ∈ tokenize lang keywords text) :
    t.isOpenString = true ↔ ∃ q body, t = ⟨.string, q :: body⟩ ∧ Unclosed q body := by
  obtain ⟨k,w⟩ := t
  by_cases hk : k = .string
  · subst hk
    obtain ⟨q,body,hw,hq⟩ := exists_quote_of_mem_tokenize ht rfl
    simp only at hw
    subst hw
    simp [isOpenString, quoteReach?_eq_none_iff hq]
  · simp [isOpenString, hk]

/-- The tokens from one on are those of the text from there on. -/
lemma exists_tokenize_eq_cons (h : tokenize lang keywords text = ts ++ t :: us) :
    ∃ rest, tokenize lang keywords rest = t :: us := by
  induction ts generalizing text with
  | nil => exact ⟨text,h⟩
  | cons t' ts ih =>
    obtain ⟨r,-,-,hr⟩ := lexeme_of_tokenize_eq_cons h
    exact ih hr

/-- A string that is not closed is the last token. -/
theorem eq_nil_of_isOpenString (h : tokenize lang keywords text = ts ++ t :: us)
    (ht : t.isOpenString = true) : us = [] := by
  obtain ⟨rest,hrest⟩ := exists_tokenize_eq_cons h
  have hmem : t ∈ tokenize lang keywords rest := by simp [hrest]
  obtain ⟨q,body,rfl,hopen⟩ := (isOpenString_iff_unclosed hmem).mp ht
  obtain ⟨r,-,hlex,hr⟩ := lexeme_of_tokenize_eq_cons hrest
  obtain ⟨q',body',htext,-,hthrough⟩ := hlex.exists_quote
  obtain ⟨rfl,rfl⟩ := List.cons.inj htext
  rw [hthrough.2.resolve_left (hopen _ (List.prefix_refl _)), tokenize_nil] at hr
  exact hr.symm

/-- Whether a span of a text is a string that takes the rest of the text and has no quote behind it to
close it. -/
def Span.isOpenString (text : List Char) (s : Span) : Bool :=
  s.category = .string && s.stop = bytes text &&
    ((s.slice? text).bind List.head?).any fun q => (closingQuote? text s.start q).isNone

/-- Where a string is the last token, a search in the whole text for its closing quote is one in the
token. -/
lemma isNone_closingQuote?_of_last (h : tokenize lang keywords text = ts ++ ⟨.string, q :: body⟩ :: us)
    (hlast : us.flatMap (·.text) = []) :
    (closingQuote? text (bytes (ts.flatMap (·.text))) q).isNone = (quoteReach? q false body).isNone := by
  have htext : text = ts.flatMap (·.text) ++ q :: body := by
    rw [← flatMap_text_tokenize lang keywords text, h, List.flatMap_append, List.flatMap_cons, hlast,
      List.append_nil]
  rw [htext, closingQuote?_append, Option.isNone_map]

/-- An open string, told by its token alone, is one that its span tells in the text: it is the last
token, so that it ends with the text. -/
theorem isOpenString_span (h : tokenize lang keywords text = ts ++ t :: us) :
    Span.isOpenString text (spanBehind ts t) = t.isOpenString := by
  have htext : text = (ts ++ t :: us).flatMap (·.text) := by rw [← h, flatMap_text_tokenize]
  have hslice : (spanBehind ts t).slice? text = some t.text := by rw [htext, slice?_spanBehind]
  have hbytes : bytes text = (spanBehind ts t).stop + bytes (us.flatMap (·.text)) := by
    rw [htext, List.flatMap_append, List.flatMap_cons, bytes_append, bytes_append, ← Nat.add_assoc]
    rfl
  obtain ⟨k,w⟩ := t
  by_cases hk : k = .string
  · subst hk
    obtain ⟨q,body,hw,-⟩ := exists_quote_of_mem_tokenize (t := ⟨.string, w⟩) (by rw [h]; simp) rfl
    obtain rfl : w = q :: body := hw
    have hspan : Span.isOpenString text (spanBehind ts ⟨.string, q :: body⟩) = true ↔
        us.flatMap (·.text) = [] ∧
          (closingQuote? text (bytes (ts.flatMap (·.text))) q).isNone = true := by
      have hstop : (spanBehind ts ⟨.string, q :: body⟩).stop = bytes text ↔ us.flatMap (·.text) = [] := by
        constructor
        · intro hstop
          by_contra hne
          have hpos := bytes_pos hne
          omega
        · intro hnil
          rw [hbytes, hnil, bytes_nil, Nat.add_zero]
      rw [Span.isOpenString, hslice, Bool.and_eq_true, Bool.and_eq_true, decide_eq_true_eq,
        decide_eq_true_eq, hstop]
      simp [spanBehind]
    rw [Bool.eq_iff_iff, hspan]
    constructor
    · rintro ⟨hlast,hnone⟩
      rwa [isNone_closingQuote?_of_last h hlast] at hnone
    · intro hopen
      have hlast : us.flatMap (·.text) = [] := by rw [eq_nil_of_isOpenString h hopen, List.flatMap_nil]
      exact ⟨hlast,by rwa [isNone_closingQuote?_of_last h hlast]⟩
  · simp [Span.isOpenString, spanBehind, Token.isOpenString, hk]

/-- A quote with what follows it is one token if it is closed at the end only, or not at all. -/
lemma tokenize_quoted (keywords : List String) (hq : q = '"' ∨ q = '\'')
    (h : ∀ v, v <+: body → EndsInQuote q v → v = body) :
    tokenize lang keywords (q :: body) = [⟨.string, q :: body⟩] := by
  have hshape : shape lang q body = .quoted := by
    rcases hq with rfl | rfl <;> cases lang <;> rfl
  have hlead := leads_shape lang q body
  rw [hshape] at hlead
  have hlex : Lexeme lang keywords (q :: body) [] .string :=
    ⟨.quoted,by rwa [List.append_nil],⟨q,body,rfl,h,.inr rfl⟩,rfl⟩
  have htokens := tokenize_of_lexeme hlex
  rwa [List.append_nil, tokenize_nil] at htokens

/-- Behind an open string its quote becomes part of it. -/
theorem tokenize_concat_quote (h : tokenize lang keywords text = ts ++ [⟨.string, q :: body⟩])
    (hopen : Unclosed q body) :
    tokenize lang keywords (text ++ [q]) = ts ++ [⟨.string, q :: (body ++ [q])⟩] := by
  have hmem : ⟨.string, q :: body⟩ ∈ tokenize lang keywords text := by simp [h]
  obtain ⟨q',body',htext,hq⟩ := exists_quote_of_mem_tokenize hmem rfl
  obtain ⟨rfl,rfl⟩ := List.cons.inj htext
  have hends : ∀ v, v <+: body ++ [q] → EndsInQuote q v → v = body ++ [q] := by
    intro v hv hend
    rcases List.prefix_concat_iff.mp hv with hv | hv
    · exact hv
    · exact absurd hend (hopen v hv)
  rw [tokenize_append h [q], List.flatMap_singleton, List.cons_append, tokenize_quoted keywords hq hends]

end Unclosed
end EditAssist.Token

namespace EditAssist.Analysis
open Text Token

section Report
variable {lang : Language} {keywords : List String} {text : List Char} {ts : List Token} {t : Token}

lemma openStringsFrom_append (start : ℕ) (ts us : List Token) :
    openStringsFrom start (ts ++ us) =
      openStringsFrom start ts ++ openStringsFrom (start + bytes (ts.flatMap (·.text))) us := by
  induction ts generalizing start with
  | nil => rfl
  | cons t ts ih =>
    simp only [List.cons_append, openStringsFrom, ih, List.flatMap_cons, bytes_append, Nat.add_assoc]
    split_ifs <;> rfl

lemma openStringsFrom_eq_nil {start : ℕ} (h : ∀ t ∈ ts, t.isOpenString = false) :
    openStringsFrom start ts = [] := by
  induction ts generalizing start with
  | nil => rfl
  | cons t ts ih =>
    obtain ⟨ht,hts⟩ := List.forall_mem_cons.mp h
    simp [openStringsFrom, ht, ih hts]

/-- The diagnostic on a string that starts at an offset. -/
def unclosedString (text : List Char) (o : ℕ) : Diagnostic :=
  let (line, column) := (LineIndex.ofText text).locate o
  ⟨line, column, .error, "unclosed_string", "Unclosed string literal"⟩

/-- Only the last token can be reported. -/
theorem stringDiagnostics_concat (h : tokenize lang keywords text = ts ++ [t]) :
    stringDiagnostics (LineIndex.ofText text) (tokenize lang keywords text) =
      if t.isOpenString then [unclosedString text (bytes (ts.flatMap (·.text)))] else [] := by
  have hclosed : ∀ u ∈ ts, u.isOpenString = false := by
    intro u hu
    obtain ⟨ts₁,ts₂,rfl⟩ := List.append_of_mem hu
    rw [Bool.eq_false_iff]
    intro hopen
    rw [List.append_assoc, List.cons_append] at h
    simpa using eq_nil_of_isOpenString h hopen
  rw [stringDiagnostics, h, openStringsFrom_append, openStringsFrom_eq_nil hclosed, Nat.zero_add]
  cases ht : t.isOpenString <;> simp [openStringsFrom, ht, unclosedString]

/-- A span of a text that is a string, opened by `q` before `body`, and is not closed. -/
structure IsOpenString (text : List Char) (q : Char) (body : List Char) (s : Span) : Prop where
  category : s.category = .string
  slice : s.slice? text = some (q :: body)
  unclosed : Unclosed q body

lemma isOpenString_spanBehind (ts : List Token) (t : Token) (q : Char) (body : List Char) :
    IsOpenString ((ts ++ [t]).flatMap (·.text)) q body (spanBehind ts t) ↔
      t = ⟨.string, q :: body⟩ ∧ Unclosed q body := by
  obtain ⟨k,w⟩ := t
  have hslice := slice?_spanBehind ts [] ⟨k, w⟩
  constructor
  · rintro ⟨hk,hw,hopen⟩
    obtain rfl : w = q :: body := Option.some.inj (hslice.symm.trans hw)
    obtain rfl : k = .string := hk
    exact ⟨rfl,hopen⟩
  · rintro ⟨ht,hopen⟩
    obtain ⟨rfl,rfl⟩ := Token.mk.inj ht
    exact ⟨rfl,hslice,hopen⟩

end Report

/-- The analysis of strings is exact, and what it proposes mends the text. It reports the last span if
that is an open string, at its start, and nothing else; and with the quote of the string behind the
text there is nothing to report, unless the quote is escaped. -/
theorem stringDiagnostics_exact (lang : Language) (keywords : List String) (text : List Char) :
    let diagnostics t := stringDiagnostics (LineIndex.ofText t) (tokenize lang keywords t)
    let last := (spans (tokenize lang keywords text)).getLast?
    (diagnostics text).length ≤ 1 ∧
    (∀ d, d ∈ diagnostics text ↔
      ∃ s ∈ last, ∃ q body, IsOpenString text q body s ∧ d = unclosedString text s.start) ∧
    ∀ s ∈ last, ∀ q body, IsOpenString text q body s →
      (diagnostics (text ++ [q]) = [] ↔ ¬ Escapes body) := by
  intro diagnostics last
  rcases List.eq_nil_or_concat (tokenize lang keywords text) with hts | ⟨ts,t,hts⟩
  · simp [diagnostics, last, hts, stringDiagnostics, openStringsFrom, spans]
  · rw [List.concat_eq_append] at hts
    have hmem : t ∈ tokenize lang keywords text := by simp [hts]
    have hlast : last = some (spanBehind ts t) := by
      rw [← getLast?_spans_concat, ← hts]
    have hspan := isOpenString_spanBehind ts t
    rw [← hts, flatMap_text_tokenize] at hspan
    have hdiagnostics : diagnostics text = _ := stringDiagnostics_concat hts
    simp only [hlast, Option.mem_some_iff, exists_eq_left', forall_eq', hspan, hdiagnostics]
    refine ⟨?_,?_,?_⟩
    · split_ifs <;> simp
    · intro d
      rw [List.mem_ite_nil_right, List.mem_singleton, isOpenString_iff_unclosed hmem]
      simp only [← exists_and_right]
      rfl
    · rintro q body ⟨rfl,hunclosed⟩
      have hts' := tokenize_concat_quote hts hunclosed
      have hmem' : ⟨.string, q :: (body ++ [q])⟩ ∈ tokenize lang keywords (text ++ [q]) := by
        simp [hts']
      have hdiagnostics' : diagnostics (text ++ [q]) = _ := stringDiagnostics_concat hts'
      have hopen := isOpenString_iff_unclosed hmem'
      rw [hdiagnostics', ← unclosed_concat_iff hunclosed]
      simp [hopen]

/-- Two backslashes at the end of the text escape nothing behind them. -/
theorem stringDiagnostics_exact_backslashes :
    let text := ['x', '\'', '\\', '\\']
    let s : Span := ⟨⟨1, 4⟩, .string⟩
    (spans (tokenize .java [] text)).getLast? = some s ∧
    IsOpenString text '\'' ['\\', '\\'] s ∧ ¬ Escapes ['\\', '\\'] ∧
    stringDiagnostics (LineIndex.ofText (text ++ ['\'']))
      (tokenize .java [] (text ++ ['\''])) = [] := by
  intro text s
  have hlast : (spans (tokenize .java [] text)).getLast? = some s := by decide +kernel
  have hopen : IsOpenString text '\'' ['\\', '\\'] s :=
    ⟨rfl,rfl,(quoteReach?_eq_none_iff (.inr rfl)).mp rfl⟩
  have hesc : ¬ Escapes ['\\', '\\'] := by
    unfold Escapes
    decide
  have hmends := (stringDiagnostics_exact .java [] text).2.2 s hlast _ _ hopen
  exact ⟨hlast,hopen,hesc,hmends.mpr hesc⟩

end EditAssist.Analysis
