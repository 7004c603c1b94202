import EditAssist.Proofs.Text.LineIndex
import EditAssist.Text.Find

/-! The two line endings. A text whose lines end in a carriage return and a newline has the lines of
the text with newlines alone: every line but the last gets a carriage return, which is not part of
the text of a line, and an offset is located where it was. -/
namespace EditAssist.Text

/-- A text with a carriage return before each newline. -/
def withReturns (t : List Char) : List Char := t.flatMap fun c => if c = '\n' then ['\r', '\n'] else [c]

@[simp] lemma withReturns_nil : withReturns [] = [] := rfl

@[simp] lemma withReturns_newline (t : List Char) :
    withReturns ('\n' :: t) = '\r' :: '\n' :: withReturns t := rfl

lemma withReturns_cons {c : Char} (hc : c ≠ '\n') (t : List Char) :
    withReturns (c :: t) = c :: withReturns t := by
  rw [withReturns, List.flatMap_cons, if_neg hc]
  rfl

@[simp] lemma withReturns_append (s t : List Char) :
    withReturns (s ++ t) = withReturns s ++ withReturns t :=
  List.flatMap_append

lemma withReturns_of_not_mem {t : List Char} (h : '\n' ∉ t) : withReturns t = t := by
  induction t with
  | nil => rfl
  | cons c t ih =>
    rw [List.mem_cons, not_or] at h
    rw [withReturns_cons (Ne.symm h.1), ih h.2]

lemma bytes_withReturns_pos {t : List Char} (h : t ≠ []) : 0 < bytes (withReturns t) := by
  obtain ⟨c,t,rfl⟩ := List.exists_cons_of_ne_nil h
  by_cases hc : c = '\n'
  · subst hc
    exact bytes_pos (by simp)
  · exact bytes_pos (by simp [withReturns_cons hc])

lemma count_withReturns (t : List Char) : (withReturns t).count '\n' = t.count '\n' := by
  induction t with
  | nil => rfl
  | cons c t ih =>
    by_cases hc : c = '\n'
    · subst hc
      simp [ih]
    · simp [withReturns_cons hc, List.count_cons, ih]

lemma lastLine_withReturns (t : List Char) : lastLine (withReturns t) = lastLine t := by
  induction t using List.reverseRecOn with
  | nil => rfl
  | append_singleton t c ih =>
    rw [withReturns_append, lastLine_concat]
    by_cases hc : c = '\n'
    · subst hc
      have hlast : lastLine (withReturns t ++ ['\r'] ++ ['\n']) = [] := by
        rw [lastLine_concat, if_pos rfl]
      simpa using hlast
    · rw [withReturns_cons hc, withReturns_nil, lastLine_concat, if_neg hc, if_neg hc, ih]

/-- Offsets in a text and in the one with carriage returns, before the same character of both. -/
def SameCut (t : List Char) (o o' : ℕ) : Prop :=
  ∃ a b, t = a ++ b ∧ o = bytes a ∧ o' = bytes (withReturns a)

lemma SameCut.locate_eq {t : List Char} {o o' : ℕ} (h : SameCut t o o') :
    (LineIndex.ofText (withReturns t)).locate o' = (LineIndex.ofText t).locate o := by
  obtain ⟨a,b,rfl,rfl,rfl⟩ := h
  rw [withReturns_append, LineIndex.locate_append, LineIndex.locate_append, count_withReturns,
    lastLine_withReturns]

section Pieces

/-- Lines, each but the last with a carriage return at its end. -/
def returnLines : List (List Char) → List (List Char)
  | [] => []
  | [p] => [p]
  | p :: q :: ps => (p ++ ['\r']) :: returnLines (q :: ps)

theorem splitOn_withReturns (t : List Char) :
    splitOn '\n' (withReturns t) = returnLines (splitOn '\n' t) := by
  induction t with
  | nil => rfl
  | cons c t ih =>
    obtain ⟨p,ps,hp⟩ := List.exists_cons_of_ne_nil (splitBy_ne_nil (· == '\n') t)
    rw [← splitOn] at hp
    by_cases hc : c = '\n'
    · subst hc
      rw [withReturns_newline, splitOn_cons_of_ne (by decide) (splitOn_newline _), ih,
        splitOn_newline, hp]
      rfl
    · rw [splitOn_cons_of_ne hc hp, withReturns_cons hc]
      cases ps with
      | nil => exact splitOn_cons_of_ne hc (by rw [ih, hp]; rfl)
      | cons q ps => exact splitOn_cons_of_ne hc (by rw [ih, hp]; rfl)

lemma dropReturn_of_not_mem {p : List Char} (h : '\r' ∉ p) : dropReturn p = p := by
  rw [dropReturn, if_neg]
  exact fun hlast => h (List.mem_of_getLast? hlast)

lemma not_mem_of_mem_splitOn {c : Char} {t p : List Char} (h : c ∉ t) (hp : p ∈ splitOn '\n' t) :
    c ∉ p := by
  obtain ⟨i,hi⟩ := List.mem_iff_getElem?.mp hp
  rw [← getElem?_lines_map_raw] at hi
  obtain ⟨l,hl,rfl⟩ := Option.map_eq_some_iff.mp hi
  obtain ⟨a,b,rfl,-⟩ := exists_parts_of_mem_lines (List.mem_of_getElem? hl)
  intro hc
  exact h (by simp [hc])

/-- The ended lines of a text are those of the text with carriage returns. -/
theorem endedLines_withReturns {t : List Char} (h : '\r' ∉ t) :
    endedLines (withReturns t) = endedLines t := by
  have hpieces : ∀ ps : List (List Char), (∀ p ∈ ps, '\r' ∉ p) →
      (returnLines ps).dropLast.map dropReturn = ps.dropLast.map dropReturn ∧
        (returnLines ps).getLast? = ps.getLast? := by
    intro ps hps
    fun_induction returnLines ps with
    | case1 => exact ⟨rfl,rfl⟩
    | case2 p => exact ⟨rfl,rfl⟩
    | case3 p q ps ih =>
      obtain ⟨hp,hps⟩ := List.forall_mem_cons.mp hps
      obtain ⟨hinit,hlast⟩ := ih hps
      have hne : returnLines (q :: ps) ≠ [] := by cases ps <;> simp [returnLines]
      rw [List.dropLast_cons_of_ne_nil hne, List.dropLast_cons_cons, List.map_cons, List.map_cons, hinit,
        dropReturn_concat, dropReturn_of_not_mem hp, List.getLast?_cons_of_ne_nil hne, hlast]
      exact ⟨rfl,rfl⟩
  obtain ⟨hinit,hlast⟩ := hpieces (splitOn '\n' t) fun p hp => not_mem_of_mem_splitOn h hp
  rw [endedLines, endedLines, splitOn_withReturns, hinit, hlast]

/-- Lines with the same text, at the same cut of a text, which is at its start or behind a newline. -/
def SameLine (t : List Char) (l l' : Line) : Prop :=
  l'.text = l.text ∧ ∃ a b, t = a ++ b ∧ (a = [] ∨ a.getLast? = some '\n') ∧
    l.start = bytes a ∧ l'.start = bytes (withReturns a)

lemma sameLine_layout {a : List Char} (ha : a = [] ∨ a.getLast? = some '\n')
    {ps : List (List Char)} (hps : ∀ p ∈ ps, '\n' ∉ p ∧ '\r' ∉ p) :
    List.Forall₂ (SameLine (a ++ ['\n'].intercalate ps)) (layout (bytes a) ps)
      (layout (bytes (withReturns a)) (returnLines ps)) := by
  fun_induction returnLines ps generalizing a with
  | case1 => exact .nil
  | case2 p => exact .cons ⟨rfl,a,_,rfl,ha,rfl,rfl⟩ .nil
  | case3 p q ps ih =>
    obtain ⟨⟨hn,hr⟩,hps⟩ := List.forall_mem_cons.mp hps
    rw [layout, layout]
    refine .cons ⟨?_,a,_,rfl,ha,rfl,rfl⟩ ?_
    · rw [Line.text, Line.text, dropReturn_concat, dropReturn_of_not_mem hr]
    · have hrest := ih (a := a ++ p ++ ['\n']) (.inr (by simp)) hps
      have htext : a ++ p ++ ['\n'] ++ ['\n'].intercalate (q :: ps) =
          a ++ ['\n'].intercalate (p :: q :: ps) := by
        rw [List.intercalate_cons_cons]
        simp only [List.append_assoc]
      have hstart : bytes (a ++ p ++ ['\n']) = bytes a + bytes p + 1 := by
        rw [bytes_append, bytes_append]
        rfl
      have hstart' : bytes (withReturns (a ++ p ++ ['\n'])) =
          bytes (withReturns a) + bytes (p ++ ['\r']) + 1 := by
        rw [withReturns_append, withReturns_append, withReturns_of_not_mem hn, withReturns_newline]
        simp only [bytes_append, Nat.add_assoc]
        rfl
      rwa [htext, hstart, hstart'] at hrest

/-- A text and the one with carriage returns have the same lines, at the same cuts. -/
theorem sameLine_lines {t : List Char} (h : '\r' ∉ t) :
    List.Forall₂ (SameLine t) (lines t) (lines (withReturns t)) := by
  have hpieces : ∀ p ∈ splitOn '\n' t, '\n' ∉ p ∧ '\r' ∉ p :=
    fun p hp => ⟨not_mem_of_mem_splitBy rfl hp,not_mem_of_mem_splitOn h hp⟩
  have hlayout := sameLine_layout (a := []) (.inl rfl) hpieces
  rw [intercalate_splitOn, List.nil_append] at hlayout
  rwa [lines, lines, splitOn_withReturns]

end Pieces

end EditAssist.Text
