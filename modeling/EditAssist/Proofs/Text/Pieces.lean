import EditAssist.Proofs.Text.Lines

/-! The pieces of a text between its newlines. A piece starts behind the pieces before it and their
newlines; pieces lie apart, the last one ends with the text, and each can be sliced out, with a
carriage return at its end and without. -/
namespace EditAssist.Text

variable {t p : List Char} {i j : ℕ}

/-- The offset of a piece of a text: behind the pieces before it, each with its newline. -/
def pieceStart (t : List Char) (i : ℕ) : ℕ :=
  bytes (((t.splitOn '\n').take i).flatMap (· ++ ['\n']))

lemma getElem?_layout (start : ℕ) (ps : List (List Char)) (i : ℕ) :
    (layout start ps)[i]? =
      ps[i]?.map fun p => ⟨start + bytes ((ps.take i).flatMap (· ++ ['\n'])), p⟩ := by
  induction ps generalizing start i with
  | nil => simp [layout]
  | cons p ps ih =>
    cases i with
    | zero => simp [layout]
    | succ i =>
      have hone : ('\n' : Char).utf8Size = 1 := rfl
      simp only [layout, List.getElem?_cons_succ, ih, List.take_succ_cons, List.flatMap_cons,
        bytes_append, bytes_cons, bytes_nil, hone, Nat.add_assoc, Nat.zero_add]

/-- The lines are the pieces, each at its offset. -/
lemma getElem?_lines (t : List Char) (i : ℕ) :
    (lines t)[i]? = (t.splitOn '\n')[i]?.map fun p => ⟨pieceStart t i, p⟩ := by
  rw [lines, splitOn_eq, getElem?_layout, pieceStart]
  simp only [Nat.zero_add]

lemma length_splitOn (t : List Char) : (t.splitOn '\n').length = t.count '\n' + 1 := by
  rw [← splitOn_eq]
  induction t with
  | nil => rfl
  | cons c t ih =>
    by_cases hc : c = '\n'
    · subst hc
      rw [splitOn_newline, List.length_cons, ih, List.count_cons_self]
    · obtain ⟨q,qs,hq⟩ := List.exists_cons_of_ne_nil (splitBy_ne_nil (· == '\n') t)
      rw [← splitOn] at hq
      rw [splitOn_cons_of_ne hc hq, List.count_cons_of_ne hc, ← ih, hq]
      rfl

/-- As many newlines stand before the last piece as there are. -/
lemma eq_count_of_last (h : (t.splitOn '\n')[i]? = some p) (hnext : (t.splitOn '\n')[i + 1]? = none) :
    i = t.count '\n' := by
  have hi := (List.getElem?_eq_some_iff.mp h).1
  have hlast := List.getElem?_eq_none_iff.mp hnext
  rw [length_splitOn] at hi hlast
  omega

lemma pieceStart_le_of_le (t : List Char) (h : i ≤ j) : pieceStart t i ≤ pieceStart t j := by
  obtain ⟨k,rfl⟩ := Nat.exists_eq_add_of_le h
  rw [pieceStart, pieceStart, List.take_add, List.flatMap_append, bytes_append]
  exact Nat.le_add_right _ _

/-- A piece ends one byte before the next one starts. -/
lemma pieceStart_succ (h : (t.splitOn '\n')[i]? = some p) :
    pieceStart t (i + 1) = pieceStart t i + bytes p + 1 := by
  have hone : ('\n' : Char).utf8Size = 1 := rfl
  rw [pieceStart, List.take_add_one, h, List.flatMap_append, bytes_append, ← pieceStart]
  simp [hone, Nat.add_assoc]

lemma flatMap_newline {ps : List (List Char)} (h : ps ≠ []) :
    ps.flatMap (· ++ ['\n']) = ['\n'].intercalate ps ++ ['\n'] := by
  induction ps with
  | nil => contradiction
  | cons p ps ih =>
    cases ps with
    | nil => simp
    | cons q qs =>
      rw [List.flatMap_cons, ih (by simp), List.intercalate_cons_cons]
      simp only [List.append_assoc]

/-- Behind the last piece there is a newline that the text has not. -/
lemma pieceStart_lineCount (t : List Char) : pieceStart t (t.count '\n' + 1) = bytes t + 1 := by
  have hne : t.splitOn '\n' ≠ [] := by
    rw [← splitOn_eq]
    exact splitBy_ne_nil _ t
  rw [pieceStart, ← length_splitOn, List.take_length, flatMap_newline hne, List.intercalate_splitOn,
    bytes_append]
  rfl

lemma pieceStart_add_lt (h : (t.splitOn '\n')[i]? = some p) (hij : i < j) :
    pieceStart t i + bytes p < pieceStart t j := by
  have hle := pieceStart_le_of_le t (Nat.succ_le_of_lt hij)
  rw [Nat.succ_eq_add_one, pieceStart_succ h] at hle
  omega

lemma pieceStart_add_le (h : (t.splitOn '\n')[i]? = some p) : pieceStart t i + bytes p ≤ bytes t := by
  have hi := (List.getElem?_eq_some_iff.mp h).1
  rw [length_splitOn] at hi
  have hlt := pieceStart_add_lt h hi
  rw [pieceStart_lineCount] at hlt
  omega

/-- What stands before a piece, and how the piece lies in the text. -/
lemma exists_parts_of_piece (h : (t.splitOn '\n')[i]? = some p) :
    ∃ a b, t = a ++ p ++ b ∧ bytes a = pieceStart t i ∧ a.count '\n' = i ∧ '\n' ∉ p ∧
      (a = [] ∨ a.getLast? = some '\n') ∧ (b = [] ∨ b.head? = some '\n') := by
  have hl : (lines t)[i]? = some ⟨pieceStart t i, p⟩ := by rw [getElem?_lines, h, Option.map_some]
  obtain ⟨a,b,htext,hstart,hcount,hp,ha,hb⟩ := isAt_of_getElem?_lines hl
  exact ⟨a,b,htext,hstart.symm,Nat.succ.inj hcount,hp,ha,hb⟩

/-- A piece can be sliced out of the text, with its carriage return and without. -/
lemma slice?_piece (h : (t.splitOn '\n')[i]? = some p) :
    (Extent.mk (pieceStart t i) (pieceStart t i + bytes p)).slice? t = some p ∧
    (Extent.mk (pieceStart t i) (pieceStart t i + bytes (dropReturn p))).slice? t =
      some (dropReturn p) := by
  obtain ⟨a,b,htext,ha,-⟩ := exists_parts_of_piece h
  obtain ⟨r,hr⟩ := dropReturn_isPrefix p
  have hslice := Extent.slice?_append a p b
  have hslice' := Extent.slice?_append a (dropReturn p) (r ++ b)
  rw [← htext, ha] at hslice
  rw [← List.append_assoc, List.append_assoc a, hr, ← htext, ha] at hslice'
  exact ⟨hslice,hslice'⟩

lemma bytes_eq_of_return (h : p.getLast? = some '\r') : bytes p = bytes (dropReturn p) + 1 := by
  obtain ⟨u,rfl⟩ := List.getLast?_eq_some_iff.mp h
  rw [dropReturn_concat, bytes_append]
  rfl

/-- The last piece ends with the text. -/
lemma bytes_eq_of_last (h : (t.splitOn '\n')[i]? = some p) (hi : i = t.count '\n') :
    bytes t = pieceStart t i + bytes p := by
  subst hi
  have hend := pieceStart_succ h
  rw [pieceStart_lineCount] at hend
  omega

end EditAssist.Text
