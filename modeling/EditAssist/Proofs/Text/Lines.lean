import EditAssist.Proofs.Text.Boundary
import EditAssist.Text.Lines
import Mathlib.Data.List.DropRight

/-! Lines and their places. The lines of a text lie in it where their offsets say, apart from each
other, and cover the characters before their endings; there is one line of each number. -/
namespace EditAssist.Text

lemma splitBy_eq_splitOnP (p : Char → Bool) (t : List Char) : splitBy p t = t.splitOnP p := by
  induction t with
  | nil => rfl
  | cons c t ih =>
    rw [splitBy_cons, List.splitOnP_cons_eq_if_modifyHead, ← ih]
    cases h : splitBy p t with
    | nil => exact absurd h (splitBy_ne_nil p t)
    | cons w ws => rfl

/-- Cutting at separators is that of the library. -/
theorem splitOn_eq (sep : Char) (t : List Char) : splitOn sep t = t.splitOn sep :=
  splitBy_eq_splitOnP _ t

lemma intercalate_splitOn (sep : Char) (t : List Char) : [sep].intercalate (splitOn sep t) = t := by
  rw [splitOn_eq, List.intercalate_splitOn]

lemma splitOn_newline (t : List Char) : splitOn '\n' ('\n' :: t) = [] :: splitOn '\n' t := by
  rw [splitOn, splitOn, splitBy_cons]
  cases h : splitBy (· == '\n') t with
  | nil => exact absurd h (splitBy_ne_nil _ t)
  | cons p ps => rfl

lemma splitOn_cons_of_ne {c : Char} (hc : c ≠ '\n') {t p : List Char} {ps : List (List Char)}
    (h : splitOn '\n' t = p :: ps) : splitOn '\n' (c :: t) = (c :: p) :: ps := by
  rw [splitOn, splitBy_cons, ← splitOn, h, splitStep, if_neg (by simpa using hc)]

@[simp] lemma map_raw_layout (start : ℕ) (ps : List (List Char)) :
    (layout start ps).map Line.raw = ps := by
  induction ps generalizing start with
  | nil => rfl
  | cons p ps ih => rw [layout, List.map_cons, ih]

lemma getElem?_lines_map_raw (t : List Char) (i : ℕ) :
    (lines t)[i]?.map Line.raw = (splitOn '\n' t)[i]? := by
  rw [← List.getElem?_map, lines, map_raw_layout]

lemma not_mem_of_mem_splitBy {p : Char → Bool} {c : Char} (hc : p c) {t w : List Char}
    (h : w ∈ splitBy p t) : c ∉ w := by
  induction t generalizing w with
  | nil => simp_all
  | cons d t ih =>
    rw [splitBy_cons] at h
    cases ht : splitBy p t with
    | nil => exact absurd ht (splitBy_ne_nil p t)
    | cons u us =>
      simp only [ht, List.mem_cons] at ih
      rw [ht, splitStep] at h
      split_ifs at h with hd
      · rcases List.mem_cons.mp h with rfl | h
        · exact List.not_mem_nil
        · exact ih (List.mem_cons.mp h)
      · rcases List.mem_cons.mp h with rfl | h
        · rintro (_ | ⟨_,hm⟩)
          · exact hd hc
          · exact ih (.inl rfl) hm
        · exact ih (.inr h)

/-- A line of a text, counted from one: it has no newline, as many newlines as lines stand before
it, and it starts and ends at a newline or with the text. -/
def Line.IsAt (text : List Char) (number : ℕ) (l : Line) : Prop :=
  ∃ a b, text = a ++ l.raw ++ b ∧ l.start = bytes a ∧ a.count '\n' + 1 = number ∧ '\n' ∉ l.raw ∧
    (a = [] ∨ a.getLast? = some '\n') ∧ (b = [] ∨ b.head? = some '\n')

/-- What starts a line at its end does so without what stands before, too. -/
lemma startsLine_of_append {w x : List Char} (h : w ++ x = [] ∨ (w ++ x).getLast? = some '\n') :
    x = [] ∨ x.getLast? = some '\n' := by
  cases hlast : x.getLast? with
  | none => exact .inl (List.getLast?_eq_none_iff.mp hlast)
  | some c =>
    rw [List.getLast?_append, hlast, Option.some_or] at h
    exact h.imp_left fun h => (List.append_eq_nil_iff.mp h).2

/-- A line that is laid out lies in the joined text where its offset and its number say. -/
theorem exists_parts_of_getElem?_layout {start i : ℕ} {ps : List (List Char)} {l : Line}
    (hps : ∀ p ∈ ps, '\n' ∉ p) (h : (layout start ps)[i]? = some l) :
    ∃ a b, ['\n'].intercalate ps = a ++ l.raw ++ b ∧ l.start = start + bytes a ∧
      a.count '\n' = i ∧ (a = [] ∨ a.getLast? = some '\n') ∧ (b = [] ∨ b.head? = some '\n') := by
  induction ps generalizing start i with
  | nil => simp [layout] at h
  | cons p ps ih =>
    obtain ⟨hp,hps⟩ := List.forall_mem_cons.mp hps
    cases i with
    | zero =>
      obtain rfl := Option.some.inj h
      cases ps with
      | nil => exact ⟨[],[],by simp,rfl,rfl,.inl rfl,.inl rfl⟩
      | cons q qs =>
        refine ⟨[],'\n' :: ['\n'].intercalate (q :: qs),?_,rfl,rfl,.inl rfl,.inr rfl⟩
        simp [List.intercalate_cons_cons]
    | succ i =>
      cases ps with
      | nil => simp [layout] at h
      | cons q qs =>
        obtain ⟨a,b,hab,hstart,hcount,ha,hb⟩ := ih hps h
        refine ⟨p ++ '\n' :: a,b,by simp [List.intercalate_cons_cons, hab],?_,?_,.inr ?_,hb⟩
        · rw [hstart, bytes_append, bytes_cons, show ('\n' : Char).utf8Size = 1 from rfl]
          omega
        · rw [List.count_append, List.count_eq_zero_of_not_mem hp, List.count_cons_self, hcount]
          omega
        · rcases ha with rfl | ha
          · simp
          · simp [List.getLast?_cons, ha]

theorem isAt_of_getElem?_lines {t : List Char} {i : ℕ} {l : Line} (h : (lines t)[i]? = some l) :
    l.IsAt t (i + 1) := by
  have hps : ∀ p ∈ splitOn '\n' t, '\n' ∉ p := fun p hp => not_mem_of_mem_splitBy rfl hp
  obtain ⟨a,b,hab,hstart,hcount,ha,hb⟩ := exists_parts_of_getElem?_layout hps h
  rw [intercalate_splitOn] at hab
  have hraw : l.raw ∈ splitOn '\n' t := by
    apply List.mem_of_getElem? (i := i)
    rw [← getElem?_lines_map_raw, h, Option.map_some]
  exact ⟨a,b,hab,by simpa using hstart,by rw [hcount],hps _ hraw,ha,hb⟩

theorem exists_parts_of_mem_lines {t : List Char} {l : Line} (h : l ∈ lines t) :
    ∃ a b, t = a ++ l.raw ++ b ∧ l.start = bytes a := by
  obtain ⟨i,hi⟩ := List.mem_iff_getElem?.mp h
  obtain ⟨a,b,hab,hstart,-⟩ := isAt_of_getElem?_lines hi
  exact ⟨a,b,hab,hstart⟩

lemma dropReturn_isPrefix (t : List Char) : dropReturn t <+: t := by
  unfold dropReturn
  split_ifs
  · exact List.dropLast_prefix t
  · exact List.prefix_refl t

lemma dropReturn_concat (p : List Char) : dropReturn (p ++ ['\r']) = p := by
  simp [dropReturn]

/-- What stands before a character other than a carriage return stands before the line ending. -/
lemma prefix_dropReturn (u v : List Char) {c : Char} (hc : c ≠ '\r') :
    u <+: dropReturn (u ++ c :: v) := by
  unfold dropReturn
  split_ifs with h
  · cases v with
    | nil =>
      rw [List.getLast?_append] at h
      simp [hc] at h
    | cons d v =>
      rw [List.dropLast_append_of_ne_nil (by simp)]
      exact List.prefix_append _ _
  · exact List.prefix_append _ _

/-- A character that is part of its line, before `b`: it is neither a newline nor the carriage return
of a line ending. -/
def InLine (c : Char) (b : List Char) : Prop :=
  c ≠ '\n' ∧ (c = '\r' → b ≠ [] ∧ b.head? ≠ some '\n')

/-- Where a line goes on, its characters are part of it. -/
lemma InLine.head {c d : Char} {b y r : List Char} (hc : InLine c b) (hy : '\n' ∉ y)
    (h : y ++ c :: b = d :: r) : InLine d r := by
  cases y with
  | nil =>
    obtain ⟨rfl,rfl⟩ := List.cons.inj h
    exact hc
  | cons e y =>
    obtain ⟨rfl,rfl⟩ := List.cons.inj h
    rw [List.mem_cons, not_or] at hy
    refine ⟨Ne.symm hy.1,fun _ => ⟨by simp,?_⟩⟩
    cases y with
    | nil => simpa using hc.1
    | cons f y => simpa using (List.ne_of_not_mem_cons hy.2).symm

/-- What stands before a character of a line is not all of the line. -/
lemma bytes_lt_dropReturn {c : Char} {b x z r : List Char} (hc : InLine c b) (hz : z ≠ [])
    (h : z ++ r = c :: b) (hr : r = [] ∨ r.head? = some '\n') :
    bytes x < bytes (dropReturn (x ++ z)) := by
  obtain ⟨d,z,rfl⟩ := List.exists_cons_of_ne_nil hz
  obtain ⟨rfl,hb⟩ := List.cons.inj h
  have hpos := d.utf8Size_pos
  unfold dropReturn
  split_ifs with hlast
  · cases z with
    | nil =>
      obtain ⟨hne,hhead⟩ := hc.2 (by simpa using hlast)
      rw [← show r = b from hb] at hne hhead
      exact absurd hr (by simp [hne, hhead])
    | cons e z =>
      rw [List.dropLast_append_of_ne_nil (by simp), List.dropLast_cons_cons, bytes_append, bytes_cons]
      omega
  · rw [bytes_append, bytes_cons]
    omega

/-- A line covers a character of it up to its ending, and no character of another line. -/
theorem Line.contains_iff {text a b : List Char} {c : Char} {number : ℕ} {l : Line}
    (hl : l.IsAt text number) (htext : text = a ++ c :: b) (hc : InLine c b) :
    l.extent.contains (bytes a) = true ↔ number = a.count '\n' + 1 := by
  obtain ⟨a₀,b₀,htext₀,hstart,hnumber,hraw,ha₀,hb₀⟩ := hl
  have hcontains : l.extent.contains (bytes a) = true ↔
      bytes a₀ ≤ bytes a ∧ bytes a < bytes a₀ + bytes (dropReturn l.raw) := by
    simp [Extent.contains, Line.extent, Line.text, hstart]
  have hcut : a₀ ++ (l.raw ++ b₀) = a ++ c :: b := by
    rw [← htext, htext₀, List.append_assoc]
  rw [hcontains, ← hnumber]
  rcases through_or_inside hcut with ⟨x,rfl,hline⟩ | ⟨z,hz,rfl⟩
  · rw [bytes_append, List.count_append]
    rcases through_or_inside hline with ⟨y,rfl,hb⟩ | ⟨z,hz,hx⟩
    · -- the character stands behind the newline that ends the line
      have hdrop : bytes (dropReturn l.raw) ≤ bytes l.raw :=
        (isBoundary_of_isPrefix (dropReturn_isPrefix l.raw)).le_bytes
      have hy : '\n' ∈ y := by
        cases y with
        | nil => simp [hb, hc.1] at hb₀
        | cons d y =>
          have hd : d = '\n' := by simpa [hb] using hb₀
          simp [hd]
      have hcount := List.count_pos_iff.mpr hy
      rw [bytes_append, List.count_append]
      omega
    · -- the character is one of the line
      have hx' : '\n' ∉ x := fun hm => hraw (by rw [hx]; exact List.mem_append_left z hm)
      have hz' : z ++ b₀ = c :: b := by simpa [hx] using hline
      have hlt : bytes x < bytes (dropReturn l.raw) := by
        rw [hx]
        exact bytes_lt_dropReturn hc hz hz' hb₀
      rw [List.count_eq_zero_of_not_mem hx']
      omega
  · -- the line starts behind the character
    have hlast : '\n' ∈ z := by
      have hlast := (startsLine_of_append ha₀).resolve_left hz
      exact List.mem_of_getLast? hlast
    have hcount := List.count_pos_iff.mpr hlast
    have hpos := bytes_pos hz
    rw [bytes_append, List.count_append]
    omega

/-- Lines lie apart: one ends, at its newline, before the next one starts. -/
lemma Line.IsAt.end_lt {text : List Char} {m n : ℕ} {l l' : Line} (h : l.IsAt text m)
    (h' : l'.IsAt text n) (hmn : m < n) : l.start + bytes l.raw < l'.start := by
  obtain ⟨a,b,htext,hstart,hm,hraw,-,-⟩ := h
  obtain ⟨a',b',htext',hstart',hn,-,-,-⟩ := h'
  rw [hstart, hstart', ← bytes_append]
  by_contra hle
  -- else what stands before the later line has no newline that the earlier one has not before it
  have hcut : a' ++ (l'.raw ++ b') = a ++ l.raw ++ b := by rw [← List.append_assoc, ← htext', htext]
  obtain ⟨x,hx,-⟩ := through_of_bytes_le hcut (Nat.le_of_not_lt hle)
  have hcount := congrArg (List.count '\n') hx
  rw [List.count_append, List.count_append, List.count_eq_zero_of_not_mem hraw] at hcount
  omega

/-- What starts a line stands before whatever has no fewer newlines before it. -/
lemma bytes_le_of_startsLine {a r a' r' : List Char} (h : a ++ r = a' ++ r')
    (ha : a = [] ∨ a.getLast? = some '\n') (hcount : a.count '\n' ≤ a'.count '\n') :
    bytes a ≤ bytes a' := by
  by_contra hlt
  obtain ⟨z,hz,rfl⟩ := inside_of_bytes_lt h (Nat.lt_of_not_le hlt)
  have hlast := (startsLine_of_append ha).resolve_left hz
  have hpos := List.count_pos_iff.mpr (List.mem_of_getLast? hlast)
  rw [List.count_append] at hcount
  omega

/-- A line goes as far as the text has no newline. -/
lemma takeWhile_of_endsLine {p b : List Char} (hp : '\n' ∉ p) (hb : b = [] ∨ b.head? = some '\n') :
    (p ++ b).takeWhile (· != '\n') = p := by
  have hall : ∀ c ∈ p, (c != '\n') = true := by
    intro c hc
    rw [bne_iff_ne]
    rintro rfl
    exact hp hc
  rw [List.takeWhile_append_of_pos hall]
  rcases hb with rfl | hb
  · simp
  · obtain ⟨b,rfl⟩ := List.head?_eq_some_iff.mp hb
    simp

/-- There is one line of a number. -/
lemma Line.IsAt.unique {text : List Char} {n : ℕ} {l l' : Line} (h : l.IsAt text n)
    (h' : l'.IsAt text n) : l = l' := by
  obtain ⟨a,b,htext,hstart,hn,hraw,ha,hb⟩ := h
  obtain ⟨a',b',htext',hstart',hn',hraw',ha',hb'⟩ := h'
  have hcut : a ++ (l.raw ++ b) = a' ++ (l'.raw ++ b') := by
    rw [← List.append_assoc, ← htext, htext', List.append_assoc]
  have hle := bytes_le_of_startsLine hcut ha (by omega)
  have hge := bytes_le_of_startsLine hcut.symm ha' (by omega)
  obtain ⟨rfl,hrest⟩ := append_inj_of_bytes hcut (Nat.le_antisymm hle hge)
  have hlines : l.raw = l'.raw := by
    rw [← takeWhile_of_endsLine hraw hb, hrest, takeWhile_of_endsLine hraw' hb']
  obtain ⟨start,raw⟩ := l
  obtain ⟨start',raw'⟩ := l'
  simp only at hstart hstart' hlines
  rw [hstart, hstart', hlines]

/-- What a text has behind its last newline. -/
def lastLine (t : List Char) : List Char := t.rtakeWhile (· != '\n')

lemma lastLine_concat (t : List Char) (c : Char) :
    lastLine (t ++ [c]) = if c = '\n' then [] else lastLine t ++ [c] := by
  rw [lastLine, List.rtakeWhile_concat]
  by_cases hc : c = '\n' <;> simp [hc, lastLine]

lemma lastLine_of_not_mem {t : List Char} (h : '\n' ∉ t) : lastLine t = t := by
  rw [lastLine, List.rtakeWhile_eq_self_iff]
  intro c hc
  have hne : c ≠ '\n' := by
    rintro rfl
    exact h hc
  simpa using hne

lemma lastLine_newline (s t : List Char) : lastLine (s ++ '\n' :: t) = lastLine t := by
  induction t using List.reverseRecOn with
  | nil => rw [lastLine_concat, if_pos rfl, lastLine_of_not_mem List.not_mem_nil]
  | append_singleton t c ih =>
    rw [← List.cons_append, ← List.append_assoc, lastLine_concat, lastLine_concat, ih]

end EditAssist.Text
