import EditAssist.Catalog
import EditAssist.Checker
import EditAssist.Proofs.Analysis.Correspondence
import EditAssist.Proofs.Token.Endings

/-! The two line endings give the same diagnostics. Brackets, open strings and lines stand at the same
cuts of the text, the pass over the lines and the search for comments see no carriage return that
they would take for text, and the index locates an offset where it was. -/
namespace EditAssist.Analysis
open Text Token

section Offsets
variable {ts ts' : List Token}

lemma isOpenString_withReturns {c : Char} (hn : c ≠ '\n') (hr : c ≠ '\r') (k : Category)
    (w : List Char) : isOpenString ⟨k, c :: withReturns w⟩ = isOpenString ⟨k, c :: w⟩ := by
  cases k <;> simp [isOpenString, quoteReach?_withReturns hn hr]

lemma endings_not_brackets :
    (isOpener '\n' || isCloser '\n') = false ∧ (isOpener '\r' || isCloser '\r') = false := by
  decide

lemma endings_size : ('\n' : Char).utf8Size = 1 ∧ ('\r' : Char).utf8Size = 1 := ⟨rfl,rfl⟩

/-- The brackets of a piece of the text. -/
lemma forall₂_placed (a w b : List Char) :
    List.Forall₂ (AlikeAt (SameCut (a ++ (w ++ b))))
      ((placed (bytes a) w).filter fun p => isOpener p.2 || isCloser p.2)
      ((placed (bytes (withReturns a)) (withReturns w)).filter fun p => isOpener p.2 || isCloser p.2) := by
  induction w generalizing a with
  | nil => exact .nil
  | cons c w ih =>
    have ih := ih (a ++ [c])
    rw [List.append_assoc, List.singleton_append, withReturns_append] at ih
    by_cases hc : c = '\n'
    · subst hc
      simp only [withReturns_newline, withReturns_nil, bytes_append, bytes_cons, bytes_nil,
        Nat.add_zero, ← Nat.add_assoc] at ih
      simpa [placed, endings_not_brackets] using ih
    · simp only [withReturns_cons hc, withReturns_nil, bytes_append, bytes_cons, bytes_nil,
        Nat.add_zero] at ih
      rw [withReturns_cons hc, placed, placed, List.filter_cons, List.filter_cons]
      split_ifs with hb
      · exact .cons ⟨⟨a,_,rfl,rfl,rfl⟩,rfl⟩ ih
      · exact ih

lemma bytes_withReturns_newline (a : List Char) :
    bytes (withReturns (a ++ ['\n'])) = bytes (withReturns a) + 1 + 1 := by
  rw [withReturns_append, bytes_append]
  rfl

lemma bytes_withReturns_comment (a : List Char) {w : List Char} (hw : '\n' ∉ w) :
    bytes (withReturns (a ++ w ++ ['\n'])) = bytes (withReturns a) + bytes (w ++ ['\r']) + 1 := by
  rw [bytes_withReturns_newline, withReturns_append, withReturns_of_not_mem hw, bytes_append,
    bytes_append]
  rfl

/-- The brackets of some tokens behind the text `a`. -/
lemma forall₂_codeFrom (h : Returned ts ts') (a : List Char) :
    List.Forall₂ (AlikeAt (SameCut (a ++ ts.flatMap (·.text))))
      ((codeFrom (bytes a) ts).filter fun p => isOpener p.2 || isCloser p.2)
      ((codeFrom (bytes (withReturns a)) ts').filter fun p => isOpener p.2 || isCloser p.2) := by
  induction h generalizing a with
  | nil => exact .nil
  | newline h ih =>
    have ih := ih (a ++ ['\n'])
    rw [bytes_withReturns_newline] at ih
    simpa [codeFrom, holdsCode, placed, endings_not_brackets, endings_size] using ih
  | @comment w ts ts' hne hw h ih =>
    have ih := ih (a ++ w ++ ['\n'])
    rw [bytes_withReturns_comment a hw] at ih
    simpa [codeFrom, holdsCode, isOpenString, placed, endings_not_brackets, endings_size, Nat.add_assoc] using ih
  | @same k c w ts ts' hn hr h ih =>
    have ih := ih (a ++ c :: w)
    have hplaced := forall₂_placed a (c :: w) (ts.flatMap (·.text))
    have hholds : holdsCode ⟨k, c :: withReturns w⟩ = holdsCode ⟨k, c :: w⟩ := by
      rw [holdsCode, holdsCode, isOpenString_withReturns hn hr]
    rw [withReturns_append, withReturns_cons hn, bytes_append, bytes_append] at ih
    rw [withReturns_cons hn] at hplaced
    simp only [codeFrom, hholds]
    rw [List.append_assoc] at ih
    split_ifs
    · rw [List.filter_append, List.filter_append]
      exact List.rel_append hplaced ih
    · exact ih

/-- The strings among them that nothing closes. -/
lemma forall₂_openStringsFrom (h : Returned ts ts') (a : List Char) :
    List.Forall₂ (SameCut (a ++ ts.flatMap (·.text))) (openStringsFrom (bytes a) ts)
      (openStringsFrom (bytes (withReturns a)) ts') := by
  induction h generalizing a with
  | nil => exact .nil
  | newline h ih =>
    have ih := ih (a ++ ['\n'])
    rw [bytes_withReturns_newline] at ih
    simpa [openStringsFrom, isOpenString, endings_size] using ih
  | @comment w ts ts' hne hw h ih =>
    have ih := ih (a ++ w ++ ['\n'])
    rw [bytes_withReturns_comment a hw] at ih
    simpa [openStringsFrom, isOpenString, endings_size, Nat.add_assoc] using ih
  | @same k c w ts ts' hn hr h ih =>
    have ih := ih (a ++ c :: w)
    rw [withReturns_append, withReturns_cons hn, bytes_append, bytes_append, List.append_assoc] at ih
    simp only [openStringsFrom, isOpenString_withReturns hn hr]
    split_ifs
    · exact .cons ⟨a,_,rfl,rfl,rfl⟩ ih
    · exact ih

lemma insideComment_behind (n : ℕ) (k : Category) (w : List Char) (ts : List Token) (o : ℕ) :
    insideComment (spansFrom n (⟨k, w⟩ :: ts)) (n + (bytes w + o)) =
      insideComment (spansFrom (n + bytes w) ts) (n + bytes w + o) := by
  rw [spansFrom_cons, insideComment_cons_of_le (by simp only; omega), Nat.add_assoc]

lemma insideComment_within (n : ℕ) (k : Category) {w : List Char} (ts : List Token) {o : ℕ}
    (h : o < bytes w) :
    insideComment (spansFrom n (⟨k, w⟩ :: ts)) (n + o) = decide (0 < o ∧ k = .comment) := by
  rw [spansFrom_cons, insideComment_cons_of_lt (by simp only; omega)]
  simp

/-- An offset where a line starts lies inside a comment of one text if it does in the other. -/
lemma insideComment_withReturns (h : Returned ts ts') {x y : List Char}
    (hxy : ts.flatMap (·.text) = x ++ y) (hx : x = [] ∨ x.getLast? = some '\n') (n n' : ℕ) :
    insideComment (spansFrom n' ts') (n' + bytes (withReturns x)) =
      insideComment (spansFrom n ts) (n + bytes x) := by
  have hzero : ∀ {k : Category} {w : List Char} (m : ℕ) (us : List Token), w ≠ [] →
      insideComment (spansFrom m (⟨k, w⟩ :: us)) (m + 0) = false := by
    intro k w m us hw
    rw [insideComment_within m k us (bytes_pos hw)]
    simp
  induction h generalizing x n n' with
  | nil => rfl
  | @newline ts ts' h ih =>
    rcases through_or_inside (w := ['\n']) hxy with ⟨x,rfl,hts⟩ | ⟨z,hz,hw⟩
    · have ih := ih hts (startsLine_of_append hx)
      have hbytes : bytes (withReturns (['\n'] ++ x)) =
          bytes ['\r'] + (bytes ['\n'] + bytes (withReturns x)) := rfl
      rw [hbytes, bytes_append, insideComment_behind, insideComment_behind, insideComment_behind, ih]
    · obtain rfl : x = [] := by
        cases x with
        | nil => rfl
        | cons d x => simp_all
      rw [withReturns_nil, bytes_nil, hzero _ _ (by simp), hzero _ _ (by simp)]
  | @comment w ts ts' hne hw h ih =>
    have hxy : w ++ ('\n' :: ts.flatMap (·.text)) = x ++ y := by simpa using hxy
    -- the comment ends with its line, so no line starts inside it
    have hstart : ∀ {u z : List Char}, w = u ++ z → u = [] ∨ u.getLast? = some '\n' → u = [] := by
      rintro u z rfl hu
      refine hu.resolve_right fun hlast => hw ?_
      exact List.mem_append_left z (List.mem_of_getLast? hlast)
    rcases through_or_inside hxy with ⟨x,rfl,hts⟩ | ⟨z,hz,hwx⟩
    · cases x with
      | nil =>
        rw [List.append_nil] at hx
        exact absurd (hstart (List.append_nil w).symm hx) hne
      | cons d x =>
        obtain ⟨rfl,hrest⟩ := List.cons.inj hts
        have hx := startsLine_of_append hx
        have ih := ih hrest (startsLine_of_append (w := ['\n']) hx)
        have hbytes : bytes (withReturns (w ++ '\n' :: x)) =
            bytes (w ++ ['\r']) + (bytes ['\n'] + bytes (withReturns x)) := by
          rw [withReturns_append, withReturns_of_not_mem hw, withReturns_newline, bytes_append,
            bytes_append, Nat.add_assoc]
          rfl
        have hbytes' : bytes (w ++ '\n' :: x) = bytes w + (bytes ['\n'] + bytes x) := bytes_append _ _
        rw [hbytes, hbytes', insideComment_behind, insideComment_behind, insideComment_behind,
          insideComment_behind, ih]
    · obtain rfl := hstart hwx hx
      rw [withReturns_nil, bytes_nil, hzero _ _ (by simp), hzero _ _ hne]
  | @same k c w ts ts' hn hr h ih =>
    rcases through_or_inside (w := c :: w) hxy with ⟨x,rfl,hts⟩ | ⟨z,hz,hw⟩
    · have ih := ih hts (startsLine_of_append hx)
      rw [withReturns_append, withReturns_cons hn, bytes_append, bytes_append, insideComment_behind,
        insideComment_behind, ih]
    · have hlt : bytes x < bytes (c :: w) := by
        have hpos := bytes_pos hz
        rw [hw, bytes_append]
        omega
      have hlt' : bytes (withReturns x) < bytes (c :: withReturns w) := by
        have hpos := bytes_withReturns_pos hz
        rw [← withReturns_cons hn, hw, withReturns_append, bytes_append]
        omega
      rw [insideComment_within _ _ _ hlt, insideComment_within _ _ _ hlt']
      cases x with
      | nil => rfl
      | cons d x =>
        have hpos := bytes_pos (List.cons_ne_nil d x)
        have hpos' := bytes_withReturns_pos (List.cons_ne_nil d x)
        simp only [hpos, hpos', true_and]

end Offsets

section Setting
variable {t : List Char}

lemma depthFrom_withReturns (depth deepest : ℕ) (t : List Char) :
    depthFrom depth deepest (withReturns t) = depthFrom depth deepest t := by
  induction t generalizing depth deepest with
  | nil => rfl
  | cons c t ih =>
    by_cases hc : c = '\n'
    · subst hc
      simp [depthFrom, ih]
    · rw [withReturns_cons hc, depthFrom, depthFrom, ih, ih, ih]

lemma settingOf_withReturns (h : '\r' ∉ t) (lang : Language) (rules : List Rule) :
    settingOf lang rules (withReturns t) = settingOf lang rules t := by
  simp only [settingOf, Context.ofText, hasIoInclude, endedLines_withReturns h, depthFrom_withReturns]

end Setting

section Comments

/-- A carriage return at its end is no part of what is searched for in a line. -/
lemma isPrefixOf_concat {part : List Char} (h : '\r' ∉ part) (t : List Char) :
    part.isPrefixOf (t ++ ['\r']) = part.isPrefixOf t := by
  rw [Bool.eq_iff_iff, List.isPrefixOf_iff_prefix, List.isPrefixOf_iff_prefix,
    List.prefix_concat_iff]
  refine or_iff_right ?_
  rintro rfl
  simp at h

lemma not_isPrefixOf_return {part : List Char} (h : '\r' ∉ part) (hne : part ≠ []) :
    part.isPrefixOf ['\r'] = false := by
  cases part with
  | nil => contradiction
  | cons c part =>
    have hc : c ≠ '\r' := by
      rintro rfl
      simp at h
    simp [List.isPrefixOf, hc]

lemma occursIn_concat {part : List Char} (h : '\r' ∉ part) (hne : part ≠ []) (t : List Char) :
    occursIn part (t ++ ['\r']) = occursIn part t := by
  induction t with
  | nil =>
    have hnil : part.isEmpty = false := List.isEmpty_eq_false_iff.mpr hne
    simp [occursIn, not_isPrefixOf_return h hne, hnil]
  | cons c t ih =>
    rw [List.cons_append, occursIn, occursIn, ih, ← List.cons_append, isPrefixOf_concat h]

lemma behind_concat {part : List Char} (h : '\r' ∉ part) (hne : part ≠ []) (o : ℕ) (t : List Char) :
    behind part o (t ++ ['\r']) = (behind part o t).map fun p => (p.1, p.2 ++ ['\r']) := by
  induction t generalizing o with
  | nil =>
    have hnil : part.isEmpty = false := List.isEmpty_eq_false_iff.mpr hne
    simp [behind, not_isPrefixOf_return h hne, hnil]
  | cons c t ih =>
    rw [List.cons_append, behind, behind, ih, ← List.cons_append, isPrefixOf_concat h]
    split_ifs with hpre
    · have hle := (List.isPrefixOf_iff_prefix.mp hpre).length_le
      rw [List.drop_append_of_le_length hle]
      rfl
    · rfl

lemma opensComment_concat (column : ℕ) (t : List Char) :
    opensComment column (t ++ ['\r']) = opensComment column t := by
  rw [opensComment, behind_concat (by decide) (by decide), opensComment]
  cases behind ['/', '*'] column t with
  | none => rfl
  | some p => simp [occursIn_concat]

lemma openCommentFrom_returnLines (number : ℕ) (opened : Option (ℕ × ℕ)) (ps : List (List Char)) :
    openCommentFrom number opened (returnLines ps) = openCommentFrom number opened ps := by
  fun_induction returnLines ps generalizing number opened with
  | case1 => rfl
  | case2 p => rfl
  | case3 p q ps ih =>
    cases opened with
    | none => rw [openCommentFrom, openCommentFrom, opensComment_concat, ih]
    | some place =>
      rw [openCommentFrom, openCommentFrom, behind_concat (by decide) (by decide)]
      cases behind ['*', '/'] 0 p with
      | none => exact ih _ _
      | some b =>
        simp only [Option.map_some, opensComment_concat]
        exact ih _ _

lemma commentDiagnostics_withReturns (t : List Char) :
    commentDiagnostics (withReturns t) = commentDiagnostics t := by
  rw [commentDiagnostics, commentDiagnostics, splitOn_withReturns, openCommentFrom_returnLines]

end Comments

section Whole
variable {t : List Char}

lemma pass_withReturns (h : '\r' ∉ t) (s : Setting) (lang : Language) (keywords : List String) :
    passFrom s 1 (spans (tokenize lang keywords (withReturns t))) (lines (withReturns t)) =
      passFrom s 1 (spans (tokenize lang keywords t)) (lines t) := by
  have hlines : List.Forall₂ (fun l l' => l'.text = l.text ∧
      insideComment (spans (tokenize lang keywords (withReturns t))) l'.start =
        insideComment (spans (tokenize lang keywords t)) l.start) (lines t) (lines (withReturns t)) := by
    refine (sameLine_lines h).imp ?_
    rintro l l' ⟨htext,a,b,hab,ha,hstart,hstart'⟩
    have hts : (tokenize lang keywords t).flatMap (·.text) = a ++ b := by
      rw [flatMap_text_tokenize, hab]
    have hinside := insideComment_withReturns (returned_tokenize lang keywords h) hts ha 0 0
    rw [Nat.zero_add, Nat.zero_add] at hinside
    exact ⟨htext,by rw [hstart, hstart']; exact hinside⟩
  have hpass := passFrom_correspond (s := s) (k := 0) (g := id) (by simp) hlines (pairwise_lines t)
    (pairwise_lines (withReturns t)) 1
  rwa [List.map_id] at hpass

/-- The two line endings have the same diagnostics, found in the same order. -/
theorem found_withReturns (h : '\r' ∉ t) (lang : Language) (keywords : List String)
    (rules : List Rule) :
    found lang keywords rules (withReturns t) = found lang keywords rules t := by
  have hts := returned_tokenize lang keywords h
  have hcode := forall₂_codeFrom hts []
  have hstrings := forall₂_openStringsFrom hts []
  rw [flatMap_text_tokenize, List.nil_append] at hcode hstrings
  have hbrackets : bracketDiagnostics (LineIndex.ofText (withReturns t))
      (tokenize lang keywords (withReturns t)) =
      bracketDiagnostics (LineIndex.ofText t) (tokenize lang keywords t) := by
    rw [bracketDiagnostics_correspond (g := id) (hcode.imp fun p q hpq => ⟨hpq.1.locate_eq,hpq.2⟩)]
    exact List.map_id _
  have hquotes : stringDiagnostics (LineIndex.ofText (withReturns t))
      (tokenize lang keywords (withReturns t)) =
      stringDiagnostics (LineIndex.ofText t) (tokenize lang keywords t) := by
    rw [stringDiagnostics_correspond (g := id) (hstrings.imp fun o o' ho => ho.locate_eq)]
    exact List.map_id _
  simp only [found, settingOf_withReturns h, pass_withReturns h, hbrackets, hquotes,
    commentDiagnostics_withReturns]

end Whole

end EditAssist.Analysis

namespace EditAssist
open Analysis Text

/-- Replacing each newline of a text without carriage returns by a carriage return and a newline
changes no diagnostic on the text: neither its place, kind, severity and message nor the order. -/
theorem analyze_withReturns (cat : Catalog) (lang : Language) (text : List Char)
    (h : '\r' ∉ text) : cat.analyze lang (withReturns text) = cat.analyze lang text := by
  rw [Catalog.analyze, Catalog.analyze, analyze_eq_arrange, analyze_eq_arrange, found_withReturns h]

/-- A comment and a string across lines, with a bracket that nothing closes. -/
theorem analyze_withReturns_builtin :
    '\r' ∉ ['(', '/', '/', '\n', '"', '\n'] ∧
    Catalog.builtin.analyze .c ['(', '/', '/', '\r', '\n', '"', '\r', '\n'] =
      Catalog.builtin.analyze .c ['(', '/', '/', '\n', '"', '\n'] := by
  have h : '\r' ∉ ['(', '/', '/', '\n', '"', '\n'] := by decide
  have hreturns : withReturns ['(', '/', '/', '\n', '"', '\n'] =
      ['(', '/', '/', '\r', '\n', '"', '\r', '\n'] := by decide
  have hanalyze := analyze_withReturns Catalog.builtin .c _ h
  rw [hreturns] at hanalyze
  exact ⟨h,hanalyze⟩

end EditAssist
