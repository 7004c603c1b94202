import EditAssist.Proofs.Analysis.Places

/-! Kinds of diagnostics. The checks of a line and the passes over a text as a whole have kinds of
their own, so that the kind of a diagnostic tells where it was found. -/
namespace EditAssist.Analysis
open Text

section Checks
variable {code : List Char} {f : Finding}

lemma kind_of_mem_checkParen {keyword : String} (h : f ∈ checkParen keyword code) :
    f.kind = "missing_paren" := by
  obtain ⟨-,h⟩ := List.mem_ite_nil_right.mp h
  rw [List.mem_singleton.mp h]

lemma kind_of_mem_checkBinding (h : f ∈ checkBinding code) : f.kind = "missing_initializer" := by
  unfold checkBinding at h
  split at h
  · simp at h
  · obtain ⟨-,h⟩ := List.mem_ite_nil_left.mp h
    rw [List.mem_singleton.mp h]

lemma kind_of_mem_checkTerminator (h : f ∈ checkTerminator code) :
    f.kind = "missing_semicolon" := by
  obtain ⟨-,h⟩ := List.mem_ite_nil_left.mp h
  rw [List.mem_singleton.mp h]

lemma kind_of_mem_checkEntryPoint {context : Context} (h : f ∈ checkEntryPoint context code) :
    f.kind = "no_entry_point" := by
  obtain ⟨-,h⟩ := List.mem_ite_nil_right.mp h
  rw [List.mem_singleton.mp h]

lemma kind_of_mem_checkBlockColon (h : f ∈ checkBlockColon code) : f.kind = "missing_colon" := by
  obtain ⟨-,h⟩ := List.mem_ite_nil_right.mp h
  rw [List.mem_singleton.mp h]

lemma kind_of_mem_checkIndentation (h : f ∈ checkIndentation code) : f.kind = "indentation" := by
  obtain ⟨-,h⟩ := List.mem_ite_nil_right.mp h
  rw [List.mem_singleton.mp h]

end Checks

/-- The kinds of what the checks of a line find. -/
def checkKinds : List String :=
  ["missing_paren", "missing_initializer", "missing_semicolon", "no_entry_point", "missing_colon",
    "indentation"]

lemma kind_mem_checkKinds {lang : Language} {context : Context} {line : List Char} {f : Finding}
    (h : f ∈ checkLine lang context line) : f.kind ∈ checkKinds := by
  cases lang with
  | kotlin =>
    rcases List.mem_append.mp h with h | h
    · simp [checkKinds, kind_of_mem_checkParen h]
    · simp [checkKinds, kind_of_mem_checkBinding h]
  | java =>
    rcases List.mem_append.mp h with h | h
    · simp [checkKinds, kind_of_mem_checkTerminator h]
    · simp [checkKinds, kind_of_mem_checkEntryPoint h]
  | python =>
    rcases List.mem_append.mp h with h | h
    · rcases List.mem_append.mp h with h | h
      · simp [checkKinds, kind_of_mem_checkParen h]
      · simp [checkKinds, kind_of_mem_checkBlockColon h]
    · simp [checkKinds, kind_of_mem_checkIndentation h]
  | cpp => simp [checkKinds, kind_of_mem_checkTerminator h]
  | c => simp [checkKinds, kind_of_mem_checkTerminator h]

/-- A terminator is found missing by one check only. -/
lemma mem_checkTerminator_of_kind {lang : Language} {context : Context} {line : List Char}
    {f : Finding} (h : f ∈ checkLine lang context line) (hk : f.kind = "missing_semicolon") :
    f ∈ checkTerminator (codeOf lang line) := by
  cases lang with
  | kotlin =>
    rcases List.mem_append.mp h with h | h
    · simp [kind_of_mem_checkParen h] at hk
    · simp [kind_of_mem_checkBinding h] at hk
  | java =>
    rcases List.mem_append.mp h with h | h
    · exact h
    · simp [kind_of_mem_checkEntryPoint h] at hk
  | python =>
    rcases List.mem_append.mp h with h | h
    · rcases List.mem_append.mp h with h | h
      · simp [kind_of_mem_checkParen h] at hk
      · simp [kind_of_mem_checkBlockColon h] at hk
    · simp [kind_of_mem_checkIndentation h] at hk
  | cpp => exact h
  | c => exact h

/-- The kinds of what is found in a text as a whole. -/
def wholeKinds : List String :=
  ["unmatched_bracket", "mismatched_bracket", "unclosed_bracket", "unclosed_string",
    "unclosed_comment"]

lemma kind_mem_wholeKinds {index : LineIndex} {ts : List Token} {t : List Char} {d : Diagnostic}
    (h : d ∈ bracketDiagnostics index ts ∨ d ∈ stringDiagnostics index ts ∨
      d ∈ commentDiagnostics t) : d.kind ∈ wholeKinds := by
  rcases h with h | h | h
  · obtain ⟨⟨o,f⟩,-,rfl⟩ := List.mem_map.mp h
    cases f <;> simp [bracketDiagnostic, BracketFault.kind, wholeKinds]
  · obtain ⟨o,-,rfl⟩ := List.mem_map.mp h
    simp [wholeKinds]
  · obtain ⟨p,-,rfl⟩ := List.mem_map.mp h
    simp [wholeKinds]

section Found
variable {lang : Language} {keywords : List String} {rules : List Rule} {text : List Char}
  {d : Diagnostic}

/-- A diagnostic of another kind is found on a line. -/
lemma mem_pass_of_mem_found (h : d ∈ found lang keywords rules text) (hd : d.kind ∉ wholeKinds) :
    d ∈ passFrom (settingOf lang rules text) 1 (Token.spans (Token.tokenize lang keywords text))
      (lines text) := by
  simp only [found, List.append_assoc, List.mem_append, List.mem_ite_nil_right] at h
  rcases h with h | h
  · exact h
  · exact absurd (kind_mem_wholeKinds (h.imp_right (Or.imp_right And.right))) hd

/-- A diagnostic of a kind of the checks, which no rule has, is a finding of the checks in its line. -/
theorem exists_finding_of_mem_found {kind : String} (hk : kind ∈ checkKinds)
    (hr : ∀ r ∈ rules, r.kind ≠ kind) (h : d ∈ found lang keywords rules text)
    (hd : d.kind = kind) :
    ∃ i l, (lines text)[i]? = some l ∧
      ∃ f ∈ checkLine lang (Context.ofText lang text) l.text, d = f.at (i + 1) := by
  subst hd
  have hwhole : ∀ kind ∈ checkKinds, kind ∉ wholeKinds := by decide
  obtain ⟨i,l,hl,hd⟩ :=
    exists_line_of_mem_passFrom _ _ _ _ d (mem_pass_of_mem_found h (hwhole d.kind hk))
  refine ⟨i,l,hl,?_⟩
  rw [Nat.add_comm] at hd
  rcases List.mem_append.mp hd with hd | hd
  · rcases List.mem_append.mp hd with hd | hd
    · obtain ⟨-,hd⟩ := List.mem_ite_nil_right.mp hd
      obtain rfl := List.mem_singleton.mp hd
      exact absurd hk (by simp [missingInclude, checkKinds])
    · obtain ⟨r,hmem,hd⟩ := List.mem_flatMap.mp hd
      obtain ⟨column,-,rfl⟩ := List.mem_map.mp hd
      exact absurd rfl (hr r hmem)
  · obtain ⟨f,hf,rfl⟩ := List.mem_map.mp hd
    exact ⟨f,hf,rfl⟩

end Found
end EditAssist.Analysis
