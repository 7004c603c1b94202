import EditAssist.Proofs.Token.Segmentation

/-! Scanning again after text was appended. Every token but the last is decided by the text before
the append, so the scan can start again at the last token, or at any earlier one, and gives the
tokens of the longer text from there on. -/
namespace EditAssist
open Text

/-- A span that lies further back by a number of bytes. -/
def Span.shift (n : ℕ) (s : Span) : Span := ⟨⟨s.start + n, s.stop + n⟩, s.category⟩

end EditAssist

namespace EditAssist.Token
open Text

lemma spansFrom_eq_map_shift (start : ℕ) (ts : List Token) :
    spansFrom start ts = (spans ts).map (Span.shift start) := by
  suffices h : ∀ n, spansFrom (n + start) ts = (spansFrom n ts).map (Span.shift start) by
    simpa [spans] using h 0
  intro n
  induction ts generalizing n with
  | nil => rfl
  | cons t ts ih =>
    rw [spansFrom_cons, spansFrom_cons, List.map_cons, ← ih, Nat.add_right_comm]
    rfl

/-- A span among those of some tokens starts behind the tokens before it. -/
lemma exists_tokens_of_spansFrom_eq {start : ℕ} {ts : List Token} {before after : List Span} {s : Span}
    (h : spansFrom start ts = before ++ s :: after) :
    ∃ ts₁ t ts₂, ts = ts₁ ++ t :: ts₂ ∧ before = spansFrom start ts₁ ∧
      s.start = start + bytes (ts₁.flatMap (·.text)) := by
  induction before generalizing start ts with
  | nil =>
    cases ts with
    | nil => simp at h
    | cons t ts =>
      obtain ⟨rfl,-⟩ := List.cons.inj h
      exact ⟨[],t,ts,rfl,rfl,rfl⟩
  | cons s' before ih =>
    cases ts with
    | nil => simp at h
    | cons t ts =>
      obtain ⟨rfl,hrest⟩ := List.cons.inj h
      obtain ⟨ts₁,t',ts₂,rfl,rfl,hs⟩ := ih hrest
      refine ⟨t :: ts₁,t',ts₂,rfl,rfl,?_⟩
      rw [hs, List.flatMap_cons, bytes_append, Nat.add_assoc]

/-- The tokens before one of the tokens of a text stay when text is appended, and the others are
those of what the text has from there on. -/
theorem tokenize_append {lang : Language} {keywords : List String} {a : List Char}
    {ts us : List Token} {t : Token} (h : tokenize lang keywords a = ts ++ t :: us) (b : List Char) :
    tokenize lang keywords (a ++ b) =
      ts ++ tokenize lang keywords ((t :: us).flatMap (·.text) ++ b) := by
  induction ts generalizing a with
  | nil =>
    rw [List.nil_append] at h
    rw [← h, flatMap_text_tokenize, List.nil_append]
  | cons t' ts ih =>
    obtain ⟨r,rfl,hlex,hr⟩ := lexeme_of_tokenize_eq_cons h
    -- the text behind a token that is not the last is not empty, so the token stays
    have hne : r ≠ [] := by
      rintro rfl
      simp at hr
    rw [List.append_assoc, tokenize_of_lexeme (hlex.append hne b), ih hr]
    rfl

/-- The same for spans: those before a span stay, and the others are found from its start on. -/
theorem spans_tokenize_restart {lang : Language} {keywords : List String} {a : List Char}
    {before after : List Span} {s : Span}
    (h : spans (tokenize lang keywords a) = before ++ s :: after) (b : List Char) :
    ∃ rest, dropBytes s.start (a ++ b) = some rest ∧
      spans (tokenize lang keywords (a ++ b)) =
        before ++ (spans (tokenize lang keywords rest)).map (Span.shift s.start) := by
  obtain ⟨ts,t,us,hts,rfl,hstart⟩ := exists_tokens_of_spansFrom_eq h
  rw [Nat.zero_add] at hstart
  have ha : a = ts.flatMap (·.text) ++ (t :: us).flatMap (·.text) := by
    rw [← List.flatMap_append, ← hts, flatMap_text_tokenize]
  refine ⟨(t :: us).flatMap (·.text) ++ b,?_,?_⟩
  · rw [hstart, ha, List.append_assoc, dropBytes_append]
  · rw [tokenize_append hts b, spans, spansFrom_append, spansFrom_eq_map_shift _ (tokenize ..),
      Nat.zero_add, ← hstart]

/-- Appending to a text that is not empty changes no span but the last: the spans of the longer text
are those of the text without the last, and behind them the spans of what the longer text has from
the start of the last one on, moved there. The scan can start again at every other span, too. -/
theorem spans_tokenize_append (lang : Language) (keywords : List String) {a : List Char}
    (ha : a ≠ []) (b : List Char) :
    let ss := spans (tokenize lang keywords a)
    (∃ s rest, ss.getLast? = some s ∧ dropBytes s.start (a ++ b) = some rest ∧
      spans (tokenize lang keywords (a ++ b)) =
        ss.dropLast ++ (spans (tokenize lang keywords rest)).map (Span.shift s.start)) ∧
    ∀ before s after, ss = before ++ s :: after →
      ∃ rest, dropBytes s.start (a ++ b) = some rest ∧
        spans (tokenize lang keywords (a ++ b)) =
          before ++ (spans (tokenize lang keywords rest)).map (Span.shift s.start) := by
  intro ss
  refine ⟨?_,fun before s after h => spans_tokenize_restart h b⟩
  have hne : ss ≠ [] := by
    intro hnil
    have hts : tokenize lang keywords a = [] := by
      cases h : tokenize lang keywords a with
      | nil => rfl
      | cons t ts => simp [ss, spans, h] at hnil
    have htext := flatMap_text_tokenize lang keywords a
    rw [hts] at htext
    exact ha htext.symm
  obtain ⟨rest,hrest,hspans⟩ := spans_tokenize_restart (List.dropLast_append_getLast hne).symm b
  exact ⟨ss.getLast hne,rest,List.getLast?_eq_some_getLast hne,hrest,hspans⟩

/-- A comment that nothing closes is closed once text is appended; the string before it stays. -/
theorem spans_tokenize_append_close :
    let a := ['"', '"', '/', '*']
    let b := ['/', '*', '/', '1']
    spans (tokenize .c [] a) = [⟨⟨0, 2⟩, .string⟩, ⟨⟨2, 4⟩, .comment⟩] ∧
    ∃ rest, dropBytes 2 (a ++ b) = some rest ∧
      spans (tokenize .c [] (a ++ b)) =
        [⟨⟨0, 2⟩, .string⟩] ++ (spans (tokenize .c [] rest)).map (Span.shift 2) := by
  intro a b
  have hts : tokenize .c [] a = [⟨.string, ['"', '"']⟩, ⟨.comment, ['/', '*']⟩] := by cbv
  have hss : spans (tokenize .c [] a) = [⟨⟨0, 2⟩, .string⟩] ++ [⟨⟨2, 4⟩, .comment⟩] := by
    rw [hts]
    rfl
  have hne : a ≠ [] := by decide
  exact ⟨hss,(spans_tokenize_append .c [] hne b).2 _ _ _ hss⟩

end EditAssist.Token
