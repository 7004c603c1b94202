import EditAssist.Analysis.LineCheck
import EditAssist.Proofs.Text.Words
import Mathlib.Data.List.DropRight

/-! Columns of the findings in a line. A check looks at the beginning of a line and points at a word
of it, behind its last character that is not blank, or at its start: always at a boundary. -/
namespace EditAssist.Text
open Unicode

lemma trimEnd_isPrefix (t : List Char) : trimEnd t <+: t := List.rdropWhile_prefix isBlank t

/-- A word of a text stands in it at its column. -/
theorem exists_parts_of_mem_wordsFrom (column : ℕ) (t : List Char) :
    ∀ w ∈ wordsFrom column t, ∃ a b, t = a ++ w.2 ++ b ∧ w.1 = column + bytes a := by
  rintro ⟨o,w⟩ hw
  obtain ⟨-,k,⟨a,b,hab,rfl,-⟩,ho⟩ := (mem_wordsFrom_iff column t o w).mp hw
  exact ⟨a,b,hab,ho⟩

lemma columnAmong_mem (word : List Char) (column : ℕ) (ws : List (ℕ × List Char)) :
    columnAmong word column ws = column ∨ ∃ w ∈ ws, columnAmong word column ws = w.1 := by
  induction ws generalizing column with
  | nil => exact .inl rfl
  | cons w ws ih =>
    right
    rw [columnAmong]
    split_ifs with h
    · exact ⟨w,List.mem_cons_self,rfl⟩
    · rcases ih w.1 with hw | ⟨v,hv,hw⟩
      · exact ⟨w,List.mem_cons_self,hw⟩
      · exact ⟨v,List.mem_cons_of_mem _ hv,hw⟩

theorem isBoundary_wordColumn (t : List Char) (word : String) : IsBoundary t (wordColumn t word) := by
  rcases columnAmong_mem word.toList 0 (wordsFrom 0 t) with h | ⟨w,hw,h⟩
  · rw [wordColumn, h]
    exact isBoundary_zero t
  · obtain ⟨a,b,hab,hcol⟩ := exists_parts_of_mem_wordsFrom 0 t w hw
    rw [wordColumn, h, hcol, Nat.zero_add, hab, List.append_assoc]
    exact isBoundary_bytes _ _

end EditAssist.Text

namespace EditAssist.Analysis
open Text

lemma codeBefore_isPrefix (opener : List Char) (quote : Option Char) (escaped : Bool)
    (line : List Char) : codeBefore opener quote escaped line <+: line := by
  fun_induction codeBefore opener quote escaped line with
  | case1 => exact List.nil_prefix
  | case7 => exact List.nil_prefix
  | _ =>
    rename_i ih
    exact (List.prefix_cons_inj _).mpr ih

/-- The code of a line is where the line begins. -/
theorem codeOf_isPrefix (lang : Language) (line : List Char) : codeOf lang line <+: line := by
  unfold codeOf
  split_ifs
  · exact (codeBefore_isPrefix _ _ _ _).trans (codeBefore_isPrefix _ _ _ _)
  · exact codeBefore_isPrefix _ _ _ _

section Checks
variable {code : List Char} {f : Finding}

lemma isBoundary_of_mem_checkParen {keyword : String} (h : f ∈ checkParen keyword code) :
    IsBoundary code f.column := by
  obtain ⟨-,h⟩ := List.mem_ite_nil_right.mp h
  obtain rfl := List.mem_singleton.mp h
  exact isBoundary_wordColumn code keyword

lemma isBoundary_of_mem_checkBinding (h : f ∈ checkBinding code) : IsBoundary code f.column := by
  unfold checkBinding at h
  split at h
  · simp at h
  · rename_i keyword _
    obtain ⟨-,h⟩ := List.mem_ite_nil_left.mp h
    obtain rfl := List.mem_singleton.mp h
    exact isBoundary_wordColumn code keyword

lemma isBoundary_of_mem_checkTerminator (h : f ∈ checkTerminator code) :
    IsBoundary code f.column := by
  obtain ⟨-,h⟩ := List.mem_ite_nil_left.mp h
  obtain rfl := List.mem_singleton.mp h
  exact isBoundary_of_isPrefix (trimEnd_isPrefix code)

lemma isBoundary_of_mem_checkEntryPoint {context : Context} (h : f ∈ checkEntryPoint context code) :
    IsBoundary code f.column := by
  obtain ⟨-,h⟩ := List.mem_ite_nil_right.mp h
  obtain rfl := List.mem_singleton.mp h
  exact isBoundary_wordColumn code "class"

lemma isBoundary_of_mem_checkBlockColon (h : f ∈ checkBlockColon code) :
    IsBoundary code f.column := by
  obtain ⟨-,h⟩ := List.mem_ite_nil_right.mp h
  obtain rfl := List.mem_singleton.mp h
  exact isBoundary_of_isPrefix (trimEnd_isPrefix code)

lemma isBoundary_of_mem_checkIndentation (h : f ∈ checkIndentation code) :
    IsBoundary code f.column := by
  obtain ⟨-,h⟩ := List.mem_ite_nil_right.mp h
  obtain rfl := List.mem_singleton.mp h
  exact isBoundary_zero code

end Checks

/-- Every finding in a line points at a boundary of the line. -/
theorem isBoundary_of_mem_checkLine {lang : Language} {context : Context} {line : List Char}
    {f : Finding} (h : f ∈ checkLine lang context line) : IsBoundary line f.column := by
  suffices hcode : IsBoundary (codeOf lang line) f.column from hcode.of_isPrefix (codeOf_isPrefix lang line)
  cases lang with
  | kotlin =>
    rcases List.mem_append.mp h with h | h
    · exact isBoundary_of_mem_checkParen h
    · exact isBoundary_of_mem_checkBinding h
  | java =>
    rcases List.mem_append.mp h with h | h
    · exact isBoundary_of_mem_checkTerminator h
    · exact isBoundary_of_mem_checkEntryPoint h
  | python =>
    rcases List.mem_append.mp h with h | h
    · rcases List.mem_append.mp h with h | h
      · exact isBoundary_of_mem_checkParen h
      · exact isBoundary_of_mem_checkBlockColon h
    · exact isBoundary_of_mem_checkIndentation h
  | cpp => exact isBoundary_of_mem_checkTerminator h
  | c => exact isBoundary_of_mem_checkTerminator h

end EditAssist.Analysis
