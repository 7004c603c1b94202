import EditAssist.LineIndex
import EditAssist.Proofs.Text.Pieces

/-! The index of lines against the text. Its table holds the places at which pieces of the text start,
in order, so that the search in it finds the piece which holds an offset, and neither that nor the way
from a line to its range ever fails. An offset is located by the bytes before it, be it between two
characters or inside one: the newlines among them count the lines, and the column is the distance from
the last of them. The range of a line is its piece without its carriage return, and the way from an
offset to its place can be gone back. -/
namespace EditAssist.Text

section Encoding

/-- The bytes of a text. -/
def encoded (t : List Char) : List UInt8 := t.flatMap String.utf8EncodeChar

/-- The byte of a newline. -/
def newlineByte : UInt8 := 10

@[simp] lemma encoded_append (s t : List Char) : encoded (s ++ t) = encoded s ++ encoded t :=
  List.flatMap_append

@[simp] lemma encoded_cons (c : Char) (t : List Char) :
    encoded (c :: t) = String.utf8EncodeChar c ++ encoded t :=
  List.flatMap_cons

@[simp] lemma length_encoded (t : List Char) : (encoded t).length = bytes t := by
  induction t with
  | nil => rfl
  | cons c t ih => simp [ih, String.length_utf8EncodeChar]

/-- No other character has the byte of a newline. -/
lemma newlineByte_mem_utf8EncodeChar {c : Char} :
    newlineByte ∈ String.utf8EncodeChar c ↔ c = '\n' := by
  constructor
  · intro h
    unfold String.utf8EncodeChar newlineByte at h
    dsimp only at h
    split_ifs at h
    all_goals simp [← UInt8.toNat_inj] at h
    · apply Char.toNat_inj.mp
      have hten : ('\n' : Char).toNat = 10 := rfl
      have hc : c.val.toNat = c.toNat := rfl
      omega
    · omega
    · omega
    · omega
  · rintro rfl
    decide

lemma newlineByte_mem_encoded {t : List Char} : newlineByte ∈ encoded t ↔ '\n' ∈ t := by
  simp [encoded, newlineByte_mem_utf8EncodeChar]

lemma count_encoded (t : List Char) : (encoded t).count newlineByte = t.count '\n' := by
  induction t with
  | nil => rfl
  | cons c t ih =>
    rw [encoded_cons, List.count_append, ih, List.count_cons]
    by_cases hc : c = '\n'
    · subst hc
      have hone : (String.utf8EncodeChar '\n').count newlineByte = 1 := by decide
      simp [hone, Nat.add_comm]
    · rw [List.count_eq_zero_of_not_mem (mt newlineByte_mem_utf8EncodeChar.mp hc)]
      simp [hc]

/-- The bytes of a part of a text are those of the text from the start of the part on. -/
lemma getElem?_encoded_add (a b : List Char) {p : List Char} {k : ℕ} (hk : k < bytes p) :
    (encoded (a ++ p ++ b))[bytes a + k]? = (encoded p)[k]? := by
  rw [← length_encoded] at hk
  rw [List.append_assoc, encoded_append, encoded_append, ← length_encoded a,
    List.getElem?_append_right (Nat.le_add_right _ _), Nat.add_sub_cancel_left,
    List.getElem?_append_left hk]

end Encoding

end EditAssist.Text

namespace EditAssist.LineIndex
open Text

section Table
variable {t p : List Char} {i o s : ℕ}

/-- The newlines are where the text can be cut before one. -/
lemma mem_newlines_iff {offset : ℕ} :
    i ∈ newlines offset t ↔ ∃ a b, t = a ++ '\n' :: b ∧ i = offset + bytes a := by
  induction t generalizing offset with
  | nil => simp [newlines]
  | cons c t ih =>
    have hmem : i ∈ newlines offset (c :: t) ↔
        c = '\n' ∧ i = offset ∨ i ∈ newlines (offset + c.utf8Size) t := by
      rw [newlines]
      split_ifs with hc <;> simp [hc]
    rw [hmem, ih]
    constructor
    · rintro (⟨rfl,rfl⟩ | ⟨a,b,rfl,rfl⟩)
      · exact ⟨[],t,rfl,rfl⟩
      · exact ⟨c :: a,b,rfl,by rw [bytes_cons, Nat.add_assoc]⟩
    · rintro ⟨a,b,hab,rfl⟩
      cases a with
      | nil => exact .inl ⟨(List.cons.inj hab).1,rfl⟩
      | cons d a =>
        obtain ⟨rfl,rfl⟩ := List.cons.inj hab
        exact .inr ⟨a,b,rfl,by rw [bytes_cons, Nat.add_assoc]⟩

/-- Lines start with the text and behind newlines. -/
lemma mem_starts_iff :
    s ∈ (ofText t).starts ↔ s = 0 ∨ ∃ a b, t = a ++ '\n' :: b ∧ s = bytes a + 1 := by
  rw [ofText, List.mem_cons, List.mem_map]
  simp only [mem_newlines_iff, Nat.zero_add]
  grind

lemma starts_layout (offset : ℕ) (t : List Char) :
    offset :: (newlines offset t).map (· + 1) = (layout offset (splitOn '\n' t)).map Line.start := by
  induction t generalizing offset with
  | nil => rfl
  | cons c t ih =>
    have hnext := ih (offset + c.utf8Size)
    rw [newlines]
    split_ifs with hc
    · subst hc
      rw [splitOn_newline, layout, List.map_cons, List.map_cons]
      exact congrArg (offset :: ·) hnext
    · obtain ⟨p,ps,hp⟩ := List.exists_cons_of_ne_nil (splitBy_ne_nil (· == '\n') t)
      rw [← splitOn] at hp
      rw [hp, layout, List.map_cons] at hnext
      rw [splitOn_cons_of_ne hc hp, layout, List.map_cons, (List.cons.inj hnext).2, bytes_cons,
        Nat.add_assoc offset]

/-- The table has the places at which the lines start. -/
lemma starts_ofText (t : List Char) : (ofText t).starts = (lines t).map Line.start :=
  starts_layout 0 t

lemma getElem?_starts (t : List Char) (i : ℕ) :
    (ofText t).starts[i]? = (t.splitOn '\n')[i]?.map fun _ => pieceStart t i := by
  rw [starts_ofText, List.getElem?_map, getElem?_lines, Option.map_map]
  rfl

lemma exists_piece_of_start (h : (ofText t).starts[i]? = some s) :
    ∃ p, (t.splitOn '\n')[i]? = some p ∧ pieceStart t i = s := by
  rwa [getElem?_starts, Option.map_eq_some_iff] at h

lemma lineCount_ofText (t : List Char) : (ofText t).lineCount = (lines t).length := by
  rw [lineCount, starts_ofText, List.length_map]

lemma sorted_starts (t : List Char) : (ofText t).starts.Pairwise (· < ·) := by
  apply List.pairwise_iff_getElem.mpr
  intro i j hi hj hij
  obtain ⟨p,hp,hsi⟩ := exists_piece_of_start (List.getElem?_eq_getElem hi)
  obtain ⟨q,-,hsj⟩ := exists_piece_of_start (List.getElem?_eq_getElem hj)
  have hlt := pieceStart_add_lt hp hij
  omega

lemma lineCount_eq_count (t : List Char) : (ofText t).lineCount = t.count '\n' + 1 := by
  have hlength := congrArg List.length (map_raw_layout 0 (splitOn '\n' t))
  rw [List.length_map, ← lines, splitOn_eq, length_splitOn] at hlength
  rw [lineCount_ofText, hlength]

/-- Of the table, the search leaves the entries that are not behind the offset before it. -/
lemma lt_partitionPoint_iff (h : (ofText t).starts[i]? = some s) :
    i < (ofText t).partitionPoint o ↔ s ≤ o := by
  obtain ⟨hi,rfl⟩ := List.getElem?_eq_some_iff.mp h
  constructor
  · intro hlt
    simpa using List.not_of_lt_findIdx hlt
  · intro hle
    apply List.lt_findIdx_of_not hi
    intro j hj
    have hsorted := List.pairwise_iff_getElem.mp (sorted_starts t) j i (by omega) hi
    rcases Nat.lt_or_eq_of_le hj with hlt | rfl
    · have hs := hsorted hlt
      simp only [decide_eq_true_eq]
      omega
    · simpa using hle

/-- An offset is located behind the last entry that is not behind it. -/
lemma exists_start_of_tryLocate (t : List Char) (o : ℕ) :
    ∃ i s, (ofText t).starts[i]? = some s ∧ s ≤ o ∧
      (∀ s', (ofText t).starts[i + 1]? = some s' → o < s') ∧
      (ofText t).tryLocate o = .ok (i + 1, o - s) := by
  have hpos : 0 < (ofText t).partitionPoint o :=
    (lt_partitionPoint_iff (i := 0) rfl).mpr (Nat.zero_le o)
  have hle : (ofText t).partitionPoint o ≤ (ofText t).starts.length := List.findIdx_le_length
  obtain ⟨i,hi⟩ : ∃ i, (ofText t).partitionPoint o = i + 1 := Nat.exists_eq_add_one.mpr hpos
  have hs : (ofText t).starts[i]? = some (ofText t).starts[i] := List.getElem?_eq_getElem (by omega)
  have hso := (lt_partitionPoint_iff hs).mp (by omega : i < (ofText t).partitionPoint o)
  refine ⟨i,_,hs,hso,?_,?_⟩
  · intro s' hs'
    have hnot := mt (lt_partitionPoint_iff hs').mpr (by omega : ¬ i + 1 < (ofText t).partitionPoint o)
    omega
  · have hline : max (i + 1) 1 = i + 1 := by omega
    have hentry : (ofText t).entry i = .ok (ofText t).starts[i] := by rw [entry, hs]
    rw [tryLocate, hi, hline]
    simp [minus, hentry, hso, bind, Except.bind, pure, Except.pure]

end Table

section Locate
variable {t p : List Char} {i c o : ℕ}

lemma locate_of_tryLocate {index : LineIndex} {place : ℕ × ℕ} (h : index.tryLocate o = .ok place) :
    index.locate o = place := by
  rw [locate, h]
  rfl

lemma tryLocate_ofText (t : List Char) (o : ℕ) :
    (ofText t).tryLocate o = .ok ((ofText t).locate o) := by
  obtain ⟨i,s,-,-,-,h⟩ := exists_start_of_tryLocate t o
  rw [h, locate_of_tryLocate h]

/-- No two offsets are located in the same place. -/
theorem locate_injective (t : List Char) : Function.Injective (ofText t).locate := by
  intro o o' h
  obtain ⟨i,s,hs,hle,-,hl⟩ := exists_start_of_tryLocate t o
  obtain ⟨i',s',hs',hle',-,hl'⟩ := exists_start_of_tryLocate t o'
  rw [locate_of_tryLocate hl, locate_of_tryLocate hl', Prod.mk.injEq] at h
  obtain rfl : i = i' := by omega
  obtain rfl : s = s' := Option.some.inj (hs.symm.trans hs')
  omega

/-- An offset is located in the piece that holds it or that it ends. -/
lemma exists_piece_of_locate (ho : o ≤ bytes t) :
    ∃ i p, (t.splitOn '\n')[i]? = some p ∧ pieceStart t i ≤ o ∧ o ≤ pieceStart t i + bytes p ∧
      (ofText t).locate o = (i + 1, o - pieceStart t i) := by
  obtain ⟨i,s,hs,hle,hnext,hl⟩ := exists_start_of_tryLocate t o
  obtain ⟨p,hp,rfl⟩ := exists_piece_of_start hs
  have hlt : o < pieceStart t (i + 1) := by
    cases hq : (t.splitOn '\n')[i + 1]? with
    | some q =>
      apply hnext
      rw [getElem?_starts, hq, Option.map_some]
    | none =>
      rw [eq_count_of_last hp hq, pieceStart_lineCount]
      omega
  rw [pieceStart_succ hp] at hlt
  exact ⟨i,p,hp,hle,by omega,locate_of_tryLocate hl⟩

/-- The index locates a cut in the line that is cut. What stands before the cut tells its place: the
newlines tell the line, and the rest the column. -/
theorem exists_line_of_cut (a b : List Char) :
    ∃ v r, (splitOn '\n' (a ++ b))[a.count '\n']? = some (lastLine a ++ v) ∧ b = v ++ r ∧
      (r = [] ∨ r.head? = some '\n') ∧
      (ofText (a ++ b)).locate (bytes a) = (a.count '\n' + 1, bytes (lastLine a)) := by
  obtain ⟨i,p,hp,hle,hle',hl⟩ := exists_piece_of_locate (t := a ++ b) (o := bytes a) (by simp)
  obtain ⟨x,r,htext,hx,rfl,hnot,hstart,hend⟩ := exists_parts_of_piece hp
  rw [← hx] at hle hle' hl
  rw [List.append_assoc] at htext
  obtain ⟨u,rfl,hrest⟩ := through_of_bytes_le htext.symm hle
  rw [bytes_append] at hle'
  obtain ⟨v,rfl,rfl⟩ := through_of_bytes_le hrest.symm (by omega)
  rw [List.mem_append, not_or] at hnot
  have hline : lastLine (x ++ u) = u := by
    rcases hstart with rfl | hlast
    · exact lastLine_of_not_mem hnot.1
    · obtain ⟨x,rfl⟩ := List.getLast?_eq_some_iff.mp hlast
      rw [List.append_assoc, List.singleton_append, lastLine_newline, lastLine_of_not_mem hnot.1]
  have hcount : (x ++ u).count '\n' = x.count '\n' := by
    rw [List.count_append, List.count_eq_zero_of_not_mem hnot.1, Nat.add_zero]
  rw [hline, hcount, splitOn_eq]
  refine ⟨v,r,hp,rfl,hend,?_⟩
  rw [hl, bytes_append, Nat.add_sub_cancel_left]

/-- A cut is located by what stands before it. -/
theorem locate_append (a b : List Char) :
    (ofText (a ++ b)).locate (bytes a) = (a.count '\n' + 1, bytes (lastLine a)) := by
  obtain ⟨v,r,-,-,-,hl⟩ := exists_line_of_cut a b
  exact hl

/-- A place in a piece is that of the offset so far behind its start. -/
lemma locate_pieceStart_add (h : (t.splitOn '\n')[i]? = some p) (hc : c ≤ bytes p) :
    (ofText t).locate (pieceStart t i + c) = (i + 1, c) := by
  have hend := pieceStart_add_le h
  have ho : pieceStart t i + c ≤ bytes t := by omega
  obtain ⟨j,q,hq,hle,hle',hl⟩ := exists_piece_of_locate ho
  -- pieces lie apart, so no other one holds the offset
  obtain rfl : j = i := by
    rcases Nat.lt_trichotomy j i with hlt | heq | hlt
    · have hapart := pieceStart_add_lt hq hlt
      omega
    · exact heq
    · have hapart := pieceStart_add_lt h hlt
      omega
  rw [hl, Nat.add_sub_cancel_left]

/-- The bytes before an offset locate it. -/
lemma locate_eq_count (ho : o ≤ bytes t) : ∃ s ≤ o,
    (ofText t).locate o = (((encoded t).take o).count newlineByte + 1, o - s) ∧
    (s = 0 ∨ ∃ i, s = i + 1 ∧ (encoded t)[i]? = some newlineByte) ∧
    ∀ i, s ≤ i → i < o → (encoded t)[i]? ≠ some newlineByte := by
  obtain ⟨i,p,hp,hle,hle',hl⟩ := exists_piece_of_locate ho
  obtain ⟨a,b,htext,ha,hcount,hp,hstart,-⟩ := exists_parts_of_piece hp
  rw [← ha] at hle hle' hl
  obtain ⟨c,rfl⟩ := Nat.exists_eq_add_of_le hle
  have hnot : newlineByte ∉ encoded p := mt newlineByte_mem_encoded.mp hp
  have htake : (encoded t).take (bytes a + c) = encoded a ++ (encoded p).take c := by
    have hc : c ≤ (encoded p).length := by
      rw [length_encoded]
      omega
    rw [htext, List.append_assoc, encoded_append, encoded_append, ← length_encoded a,
      List.take_length_add_append, List.take_append_of_le_length hc]
  refine ⟨bytes a,hle,?_,?_,?_⟩
  · have hnone : newlineByte ∉ (encoded p).take c := fun h => hnot (List.mem_of_mem_take h)
    rw [hl, htake, List.count_append, count_encoded, hcount, List.count_eq_zero_of_not_mem hnone]
  · rcases hstart with rfl | hlast
    · exact .inl rfl
    · obtain ⟨a,rfl⟩ := List.getLast?_eq_some_iff.mp hlast
      refine .inr ⟨bytes a,bytes_append a ['\n'],?_⟩
      rw [htext, List.append_assoc _ p]
      exact getElem?_encoded_add a (p ++ b) (k := 0) (by decide)
  · intro j hj hjo hnewline
    obtain ⟨k,rfl⟩ := Nat.exists_eq_add_of_le hj
    rw [htext, getElem?_encoded_add a b (by omega)] at hnewline
    exact hnot (List.mem_of_getElem? hnewline)

end Locate

section Ranges
variable {t p : List Char} {i n : ℕ} {e : Extent}

/-- A line ends where its piece does. -/
lemma lineEnd_of_piece (h : (t.splitOn '\n')[i]? = some p) :
    (ofText t).lineEnd t (i + 1) = .ok (pieceStart t i + bytes p) := by
  unfold lineEnd
  rw [getElem?_starts]
  cases hq : (t.splitOn '\n')[i + 1]? with
  | some q =>
    have hsub : pieceStart t i + bytes p + 1 - 1 = pieceStart t i + bytes p := Nat.add_sub_cancel _ _
    simp only [Option.map_some, pieceStart_succ h, minus, hsub]
    rw [if_pos (by omega)]
  | none =>
    rw [← bytes_eq_of_last h (eq_count_of_last h hq)]
    rfl

/-- Where a line starts that is counted from one. -/
lemma bind_starts (t : List Char) (i : ℕ) :
    (minus (i + 1) 1).toOption.bind ((ofText t).starts[·]?) =
      (t.splitOn '\n')[i]?.map fun _ => pieceStart t i := by
  have hminus : minus (i + 1) 1 = .ok i := if_pos (Nat.le_add_left 1 i)
  rw [hminus, Except.toOption, Option.bind_some, getElem?_starts]

/-- The range of a line is computed without a fault: what it takes off for a carriage return is the
byte of one. -/
lemma tryRange_of_piece (h : (t.splitOn '\n')[i]? = some p) :
    (ofText t).tryRange t (i + 1) =
      .ok (some ⟨pieceStart t i, pieceStart t i + bytes (dropReturn p)⟩) := by
  have hcut : cut t (pieceStart t i) (pieceStart t i + bytes p) = .ok p := by
    rw [cut, (slice?_piece h).1]
  simp only [tryRange, bind_starts, h, Option.map_some, lineEnd_of_piece h, hcut, bind, Except.bind]
  split_ifs with hreturn
  · have hbytes := bytes_eq_of_return hreturn
    have hminus : minus (pieceStart t i + bytes p) 1 = .ok (pieceStart t i + bytes (dropReturn p)) := by
      rw [minus, if_pos (by omega), hbytes, ← Nat.add_assoc, Nat.add_sub_cancel]
    rw [hminus]
    rfl
  · rw [show dropReturn p = p from if_neg hreturn]
    rfl

lemma tryRange_of_none (h : (t.splitOn '\n')[i]? = none) : (ofText t).tryRange t (i + 1) = .ok none := by
  simp only [tryRange, bind_starts, h, Option.map_none]
  rfl

@[simp] lemma lineRange_zero (index : LineIndex) (t : List Char) : index.lineRange t 0 = none := rfl

lemma lineRange_of_tryRange {index : LineIndex} {r : Option Extent} (h : index.tryRange t n = .ok r) :
    index.lineRange t n = r := by
  rw [lineRange, h]
  rfl

lemma tryRange_ofText (t : List Char) (n : ℕ) :
    (ofText t).tryRange t n = .ok ((ofText t).lineRange t n) := by
  have hex : ∃ r, (ofText t).tryRange t n = .ok r := by
    cases n with
    | zero => exact ⟨none,rfl⟩
    | succ i =>
      cases hp : (t.splitOn '\n')[i]? with
      | some p => exact ⟨_,tryRange_of_piece hp⟩
      | none => exact ⟨none,tryRange_of_none hp⟩
  obtain ⟨r,hr⟩ := hex
  rw [hr, lineRange_of_tryRange hr]

/-- The range of a line is its extent. -/
theorem lineRange_succ (t : List Char) (i : ℕ) :
    (ofText t).lineRange t (i + 1) = (lines t)[i]?.map Line.extent := by
  rw [getElem?_lines, Option.map_map]
  cases hp : (t.splitOn '\n')[i]? with
  | some p => exact lineRange_of_tryRange (tryRange_of_piece hp)
  | none => exact lineRange_of_tryRange (tryRange_of_none hp)

lemma lineRange_eq_some_iff_piece : (ofText t).lineRange t n = some e ↔
    ∃ i p, n = i + 1 ∧ (t.splitOn '\n')[i]? = some p ∧
      e = ⟨pieceStart t i, pieceStart t i + bytes (dropReturn p)⟩ := by
  cases n with
  | zero => simp
  | succ i =>
    rw [lineRange_succ, getElem?_lines, Option.map_map, Option.map_eq_some_iff]
    simp [eq_comm, Line.extent, Line.text]

lemma exists_line_of_lineRange (h : (ofText t).lineRange t n = some e) :
    ∃ l : Line, l.IsAt t n ∧ e = l.extent := by
  obtain ⟨i,p,rfl,hp,rfl⟩ := lineRange_eq_some_iff_piece.mp h
  have hl : (lines t)[i]? = some ⟨pieceStart t i, p⟩ := by rw [getElem?_lines, hp, Option.map_some]
  exact ⟨_,isAt_of_getElem?_lines hl,rfl⟩

/-- The ranges of lines lie one behind the other. -/
lemma lineRange_apart_of_lt {m n : ℕ} {e f : Extent} (hmn : m < n)
    (he : (ofText t).lineRange t m = some e) (hf : (ofText t).lineRange t n = some f) :
    e.start ≤ e.stop ∧ e.stop < f.start := by
  obtain ⟨i,p,rfl,hp,rfl⟩ := lineRange_eq_some_iff_piece.mp he
  obtain ⟨j,q,rfl,hq,rfl⟩ := lineRange_eq_some_iff_piece.mp hf
  have hlt := pieceStart_add_lt hp (Nat.lt_of_succ_lt_succ hmn)
  have hle := (isBoundary_of_isPrefix (dropReturn_isPrefix p)).le_bytes
  exact ⟨Nat.le_add_right _ _,by simp only; omega⟩

end Ranges

/-- What it is for an index to be right about a text. -/
structure IsIndexOf (t : List Char) (index : LineIndex) : Prop where
  /-- Lines start with the text and behind newlines. -/
  mem_starts_iff : ∀ s, s ∈ index.starts ↔ s = 0 ∨ ∃ a b, t = a ++ '\n' :: b ∧ s = bytes a + 1
  sorted_starts : index.starts.Pairwise (· < ·)
  /-- The search in the table ends at the first entry behind the offset. -/
  lt_partitionPoint_iff : ∀ o i s, index.starts[i]? = some s → (i < index.partitionPoint o ↔ s ≤ o)
  /-- No difference is below zero and no place outside the table. -/
  tryLocate_eq : ∀ o, index.tryLocate o = .ok (index.locate o)
  /-- The same, and a slice is cut at boundaries of the text. -/
  tryRange_eq : ∀ n, index.tryRange t n = .ok (index.lineRange t n)
  /-- There is a line more than newlines. -/
  lineCount_eq : index.lineCount = t.count '\n' + 1
  /-- An offset is located by the bytes before it: by the number of newlines among them, and by the
  distance from `s`, which is the first byte or the byte behind the last of the newlines. -/
  locate_eq : ∀ o ≤ bytes t, ∃ s ≤ o,
    index.locate o = (((encoded t).take o).count newlineByte + 1, o - s) ∧
    (s = 0 ∨ ∃ i, s = i + 1 ∧ (encoded t)[i]? = some newlineByte) ∧
    ∀ i, s ≤ i → i < o → (encoded t)[i]? ≠ some newlineByte
  /-- The offsets of the text and the places in its pieces, their ends included, are the same. -/
  locate_eq_iff : ∀ o i c, o ≤ bytes t ∧ index.locate o = (i + 1, c) ↔
    ∃ p, (t.splitOn '\n')[i]? = some p ∧ c ≤ bytes p ∧ o = pieceStart t i + c
  isSome_lineRange : ∀ n, (index.lineRange t n).isSome ↔ 1 ≤ n ∧ n ≤ index.lineCount
  /-- The range of a line is that of its piece without one carriage return at the end. -/
  lineRange_eq_some_iff : ∀ n e, index.lineRange t n = some e ↔
    ∃ i p, n = i + 1 ∧ (t.splitOn '\n')[i]? = some p ∧
      e = ⟨pieceStart t i, pieceStart t i + bytes (dropReturn p)⟩
  lineRange_apart : ∀ m n e f, m < n → index.lineRange t m = some e → index.lineRange t n = some f →
    e.start ≤ e.stop ∧ e.stop < f.start
  /-- A piece can be sliced out with its carriage return and without. The next one starts a byte behind
  its end, and the text ends with the last. -/
  piece : ∀ i p, (t.splitOn '\n')[i]? = some p →
    (Extent.mk (pieceStart t i) (pieceStart t i + bytes p)).slice? t = some p ∧
    (Extent.mk (pieceStart t i) (pieceStart t i + bytes (dropReturn p))).slice? t =
      some (dropReturn p) ∧
    (p.getLast? = some '\r' → bytes p = bytes (dropReturn p) + 1) ∧
    pieceStart t (i + 1) = pieceStart t i + bytes p + 1 ∧
    (i + 1 = index.lineCount → bytes t = pieceStart t i + bytes p)

/-- The index of a text is right about it. -/
theorem isIndexOf_ofText (t : List Char) : IsIndexOf t (ofText t) where
  mem_starts_iff s := mem_starts_iff
  sorted_starts := sorted_starts t
  lt_partitionPoint_iff o i s := lt_partitionPoint_iff
  tryLocate_eq := tryLocate_ofText t
  tryRange_eq := tryRange_ofText t
  lineCount_eq := lineCount_eq_count t
  locate_eq o ho := locate_eq_count ho
  locate_eq_iff o i c := by
    constructor
    · rintro ⟨ho,hplace⟩
      obtain ⟨j,p,hp,hle,hle',hl⟩ := exists_piece_of_locate ho
      rw [hl, Prod.mk.injEq] at hplace
      obtain rfl : j = i := by omega
      exact ⟨p,hp,by omega,by omega⟩
    · rintro ⟨p,hp,hc,rfl⟩
      have hend := pieceStart_add_le hp
      exact ⟨by omega,locate_pieceStart_add hp hc⟩
  isSome_lineRange n := by
    rw [lineCount_eq_count, ← length_splitOn]
    cases n with
    | zero => simp
    | succ i =>
      rw [lineRange_succ, getElem?_lines, Option.isSome_map, Option.isSome_map, isSome_getElem?]
      omega
  lineRange_eq_some_iff n e := lineRange_eq_some_iff_piece
  lineRange_apart m n e f := lineRange_apart_of_lt
  piece i p hp := by
    obtain ⟨hraw,htext⟩ := slice?_piece hp
    refine ⟨hraw,htext,bytes_eq_of_return,pieceStart_succ hp,?_⟩
    rw [lineCount_eq_count]
    intro hi
    exact bytes_eq_of_last hp (Nat.succ.inj hi)

end EditAssist.LineIndex
