import EditAssist.Proofs.Text.Boundary
import EditAssist.Proofs.Token.Shape

/-! The spans of the tokens of a text tile it: they lie one behind the other without a gap from its
first byte to its last, none is empty, and they are cut between characters, so that every cut made
while the text is scanned succeeds. -/
namespace EditAssist.Token
open Text

/-- Spans that follow each other without a gap from one offset to another. -/
def Contiguous : ℕ → List Span → ℕ → Prop
  | i, [], j => i = j
  | i, s :: ss, j => s.start = i ∧ Contiguous s.stop ss j

lemma spansFrom_append (start : ℕ) (ts us : List Token) :
    spansFrom start (ts ++ us) =
      spansFrom start ts ++ spansFrom (start + bytes (ts.flatMap (·.text))) us := by
  induction ts generalizing start with
  | nil => simp
  | cons t ts ih => simp [ih, Nat.add_assoc]

/-- Spans that are laid out from an offset end behind all the texts of their tokens. -/
theorem contiguous_spansFrom (start : ℕ) (ts : List Token) :
    Contiguous start (spansFrom start ts) (start + bytes (ts.flatMap (·.text))) := by
  induction ts generalizing start with
  | nil => simp [Contiguous]
  | cons t ts ih =>
    refine ⟨rfl,?_⟩
    rw [List.flatMap_cons, bytes_append, ← Nat.add_assoc]
    exact ih (start + bytes t.text)

/-- The slice at the span of a token is the text of the token. -/
theorem map_slice_spansFrom (before : List Char) (ts : List Token) (after : List Char) :
    (spansFrom (bytes before) ts).map
        (fun s => s.slice? (before ++ ts.flatMap (·.text) ++ after)) =
      ts.map fun t => some t.text := by
  induction ts generalizing before with
  | nil => rfl
  | cons t ts ih =>
    have ht := Extent.slice?_append before t.text (ts.flatMap (·.text) ++ after)
    have hts := ih (before ++ t.text)
    simp only [bytes_append, List.append_assoc] at ht hts
    simp only [spansFrom_cons, List.flatMap_cons, List.map_cons, List.append_assoc, ht, hts]

/-- A span starts where the scan stood at a character, and ends where the shape found there reaches
to. -/
theorem exists_scan_of_mem_spansFrom (lang : Language) (keywords : List String) (text : List Char)
    (start : ℕ) : ∀ s ∈ spansFrom start (tokenize lang keywords text),
      ∃ before c t, text = before ++ c :: t ∧ s.start = start + bytes before ∧
        s.stop = s.start + bytes (c :: t.take (reach c t (shape lang c t))) := by
  fun_induction tokenize lang keywords text generalizing start with
  | case1 => simp
  | case2 c t sh n word rest ih =>
    intro s hs
    rcases List.mem_cons.mp hs with rfl | hs
    · exact ⟨[],c,t,rfl,rfl,rfl⟩
    · obtain ⟨before,d,u,hu,hstart,hstop⟩ := ih _ s hs
      refine ⟨word ++ before,d,u,?_,?_,hstop⟩
      · rw [List.append_assoc, ← hu, List.cons_append, List.take_append_drop]
      · rw [hstart, bytes_append, Nat.add_assoc]

/-- A span of a text takes at least one character, and no part of one. -/
theorem isBoundary_of_mem_spans {lang : Language} {keywords : List String} {text : List Char}
    {s : Span} (hs : s ∈ spans (tokenize lang keywords text)) :
    s.isEmpty = false ∧ IsBoundary text s.start ∧ IsBoundary text s.stop := by
  obtain ⟨before,c,t,rfl,hstart,hstop⟩ := exists_scan_of_mem_spansFrom lang keywords _ 0 s hs
  rw [Nat.zero_add] at hstart
  refine ⟨?_,?_,?_⟩
  · have hpos := bytes_pos (List.cons_ne_nil c (t.take (reach c t (shape lang c t))))
    simp only [Extent.isEmpty, hstop, decide_eq_false_iff_not]
    omega
  · rw [hstart]
    exact isBoundary_bytes _ _
  · rw [hstop, hstart, ← bytes_append]
    apply isBoundary_of_isPrefix
    apply (List.prefix_append_right_inj before).mpr
    apply (List.prefix_cons_inj c).mpr
    exact List.take_prefix _ t

/-- The slices of a text at its spans are the texts of its tokens. -/
theorem map_slice_spans_tokenize (lang : Language) (keywords : List String) (text : List Char) :
    (spans (tokenize lang keywords text)).map (fun s => s.slice? text) =
      (tokenize lang keywords text).map fun t => some t.text := by
  have h := map_slice_spansFrom [] (tokenize lang keywords text) []
  rwa [List.nil_append, List.append_nil, flatMap_text_tokenize] at h

/-- Tiling: the spans follow each other from the first byte to the last, none is empty, both ends of
each are boundaries, and the slices at them succeed and make up the text. The scan, which stands at
the start of each span in turn, can cut the text there and behind any opener that it finds there,
and what it takes from there on is there to be taken. -/
theorem spans_tokenize_tile (lang : Language) (keywords : List String) (text : List Char) :
    let ss := spans (tokenize lang keywords text)
    Contiguous 0 ss (bytes text) ∧
    (∀ s ∈ ss, s.isEmpty = false ∧ IsBoundary text s.start ∧ IsBoundary text s.stop) ∧
    (∀ s ∈ ss, (s.slice? text).isSome) ∧
    ss.flatMap (fun s => (s.slice? text).getD []) = text ∧
    ∀ s ∈ ss, ∃ c t, dropBytes s.start text = some (c :: t) ∧
      (∀ opener, opener <+: c :: t → (dropBytes (s.start + bytes opener) text).isSome) ∧
      reach c t (shape lang c t) ≤ t.length ∧
      s.stop = s.start + bytes (c :: t.take (reach c t (shape lang c t))) := by
  intro ss
  have hslices : ss.map (fun s => s.slice? text) =
      (tokenize lang keywords text).map fun t => some t.text :=
    map_slice_spans_tokenize lang keywords text
  refine ⟨?_,fun s hs => isBoundary_of_mem_spans hs,?_,?_,?_⟩
  · have h := contiguous_spansFrom 0 (tokenize lang keywords text)
    rwa [flatMap_text_tokenize, Nat.zero_add] at h
  · intro s hs
    have hmem : s.slice? text ∈ ss.map fun s => s.slice? text := List.mem_map_of_mem hs
    rw [hslices] at hmem
    obtain ⟨t,_,ht⟩ := List.mem_map.mp hmem
    simp [← ht]
  · calc ss.flatMap (fun s => (s.slice? text).getD [])
        = (ss.map fun s => s.slice? text).flatMap (·.getD []) := by rw [List.flatMap_map]
      _ = (tokenize lang keywords text).flatMap (·.text) := by rw [hslices, List.flatMap_map]; rfl
      _ = text := flatMap_text_tokenize lang keywords text
  · intro s hs
    obtain ⟨before,c,t,rfl,hstart,hstop⟩ :=
      exists_scan_of_mem_spansFrom lang keywords _ 0 s hs
    rw [Nat.zero_add] at hstart
    refine ⟨c,t,?_,?_,reach_le_length lang c t,hstop⟩
    · rw [hstart, dropBytes_append]
    · intro opener ho
      rw [hstart, ← bytes_append, ← isBoundary_iff_dropBytes]
      exact isBoundary_of_isPrefix ((List.prefix_append_right_inj before).mpr ho)

end EditAssist.Token
