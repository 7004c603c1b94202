import EditAssist.Checker
import EditAssist.Proofs.Analysis.Brackets
import EditAssist.Proofs.Analysis.Correspondence
import Mathlib.Logic.Basic

/-! Reserved words only color a text. Two sets of reserved words cut a text alike, and the tokens they
make differ in the category of words that one set has and the other has not. A word is neither a
comment nor a string and has no bracket, so nothing that the analysis looks for is told apart by it. -/
namespace EditAssist.Token
open Text Unicode

section Categories
variable {ks ks' : List String} {w r : List Char}

lemma wordCategory_of_mem (h : String.ofList w ∈ ks) : wordCategory ks w r = .keyword := by
  simp [wordCategory, h]

lemma wordCategory_ne_keyword (h : String.ofList w ∉ ks) : wordCategory ks w r ≠ .keyword := by
  unfold wordCategory
  split_ifs with hk <;> simp_all

lemma wordCategory_eq_of_not_mem (h : String.ofList w ∉ ks) (h' : String.ofList w ∉ ks') :
    wordCategory ks w r = wordCategory ks' w r := by
  simp [wordCategory, h, h']

/-- A word has another category with other reserved words exactly if it is reserved in one set only. -/
lemma wordCategory_ne_iff :
    wordCategory ks w r ≠ wordCategory ks' w r ↔
      Xor (String.ofList w ∈ ks) (String.ofList w ∈ ks') := by
  by_cases h : String.ofList w ∈ ks <;> by_cases h' : String.ofList w ∈ ks'
  · simp [wordCategory_of_mem h, wordCategory_of_mem h', h, h']
  · simpa [wordCategory_of_mem h, h, h'] using (wordCategory_ne_keyword h').symm
  · simpa [wordCategory_of_mem h', h, h'] using wordCategory_ne_keyword h
  · simp [wordCategory_eq_of_not_mem h h', h, h']

lemma categoryOf_ne_iff {s : Shape} :
    categoryOf ks w r s ≠ categoryOf ks' w r s ↔
      s = .word ∧ Xor (String.ofList w ∈ ks) (String.ofList w ∈ ks') := by
  cases s with
  | word => simpa [categoryOf] using wordCategory_ne_iff
  | _ => simp [categoryOf]

end Categories

/-- A token and what it is with other reserved words: the same, or the same word. -/
inductive Recast : Token → Token → Prop
  | same (t : Token) : Recast t t
  | word {k k' : Category} {w : List Char} : (∀ c ∈ w, isAlphanumeric c ∨ c = '_') →
      k ≠ .comment → k ≠ .string → k' ≠ .comment → k' ≠ .string → Recast ⟨k, w⟩ ⟨k', w⟩

lemma recast_categoryOf (ks ks' : List String) {w r : List Char} {s : Shape} (h : s.Takes w r) :
    Recast ⟨categoryOf ks w r s, w⟩ ⟨categoryOf ks' w r s, w⟩ := by
  cases s with
  | word =>
    obtain ⟨hcomment,hstring⟩ := wordCategory_ne ks w r
    obtain ⟨hcomment',hstring'⟩ := wordCategory_ne ks' w r
    exact .word h.1 hcomment hstring hcomment' hstring'
  | _ => exact .same _

/-- The tokens of a text with two sets of reserved words. -/
theorem recast_tokenize (lang : Language) (ks ks' : List String) (text : List Char) :
    List.Forall₂ Recast (tokenize lang ks text) (tokenize lang ks' text) := by
  fun_induction tokenize lang ks text with
  | case1 => simp
  | case2 c t s n word rest ih =>
    rw [tokenize]
    exact .cons (recast_categoryOf ks ks' (takes_reach (leads_shape lang c t).1)) ih

/-- A span that covers a word `w` at its place in a text. -/
def CoversWord (lang : Language) (text w : List Char) (s : Span) : Prop :=
  ∃ a r, text = a ++ (w ++ r) ∧ s.start = bytes a ∧ s.stop = bytes a + bytes w ∧
    Shape.word.Leads lang (w ++ r) ∧ Shape.word.Takes w r

/-- The span of a token covers the token if that is a word, and no other word. -/
lemma coversWord_iff {lang : Language} {a w r w' : List Char} {sh : Shape} {s : Span}
    (hstart : s.start = bytes a) (hstop : s.stop = bytes a + bytes w)
    (hlead : sh.Leads lang (w ++ r)) (htake : sh.Takes w r) :
    CoversWord lang (a ++ (w ++ r)) w' s ↔ sh = .word ∧ w' = w := by
  constructor
  · rintro ⟨a',r',htext,hstart',-,hlead',htake'⟩
    obtain ⟨rfl,hrest⟩ := append_inj_of_bytes htext (hstart.symm.trans hstart')
    rw [← hrest] at hlead'
    obtain rfl := hlead.unique hlead'
    exact ⟨rfl,(htake.unique htake' hrest).symm⟩
  · rintro ⟨rfl,rfl⟩
    exact ⟨a,r,rfl,hstart,hstop,hlead,htake⟩

/-- Two spans at one place of a text, of two categories exactly if they cover a word that one set of
reserved words has and the other has not. -/
def Recolored (lang : Language) (ks ks' : List String) (text : List Char) (s s' : Span) : Prop :=
  s.toExtent = s'.toExtent ∧
    (s.category ≠ s'.category ↔
      ∃ w, CoversWord lang text w s ∧ Xor (String.ofList w ∈ ks) (String.ofList w ∈ ks'))

/-- The spans of a text with two sets of reserved words. -/
theorem recolored_spansFrom (lang : Language) (ks ks' : List String) (a text : List Char) :
    List.Forall₂ (Recolored lang ks ks' (a ++ text)) (spansFrom (bytes a) (tokenize lang ks text))
      (spansFrom (bytes a) (tokenize lang ks' text)) := by
  fun_induction tokenize lang ks text generalizing a with
  | case1 => simp
  | case2 c t s n word rest ih =>
    have htext : word ++ rest = c :: t := by rw [List.cons_append, List.take_append_drop]
    have hlead : s.Leads lang (word ++ rest) := htext.symm ▸ leads_shape lang c t
    have htake : s.Takes word rest := takes_reach (leads_shape lang c t).1
    have ih := ih (a ++ word)
    rw [bytes_append, List.append_assoc, htext] at ih
    rw [tokenize]
    refine .cons ⟨rfl,?_⟩ ih
    have hcovers : ∀ {k : Category} w, CoversWord lang (a ++ c :: t) w
        ⟨⟨bytes a, bytes a + bytes word⟩, k⟩ ↔ s = .word ∧ w = word := by
      intro k w
      rw [← htext]
      exact coversWord_iff rfl rfl hlead htake
    simp only [hcovers, and_assoc, exists_and_left, exists_eq_left]
    exact categoryOf_ne_iff

end EditAssist.Token

namespace EditAssist.Analysis
open Text Unicode Token

section Readers
variable {ts ts' : List Token}

lemma not_isBracket_of_wordChar {c : Char} (h : isAlphanumeric c ∨ c = '_') :
    (isOpener c || isCloser c) = false := by
  rw [Bool.eq_false_iff, ne_eq, Bool.or_eq_true, isOpener_iff, isCloser_iff, ← List.mem_append]
  intro hb
  exact (classes_of_bracket hb).2.1 h

lemma filter_placed_word {w : List Char} (h : ∀ c ∈ w, isAlphanumeric c ∨ c = '_') (start : ℕ) :
    ((placed start w).filter fun p => isOpener p.2 || isCloser p.2) = [] := by
  rw [List.filter_eq_nil_iff]
  rintro ⟨o,c⟩ hp
  obtain ⟨a,b,rfl,-⟩ := exists_parts_of_mem_placed hp
  simp [not_isBracket_of_wordChar (h c (by simp))]

/-- The same brackets count, whatever words are reserved. -/
lemma filter_codeFrom_recast (h : List.Forall₂ Recast ts ts') (start : ℕ) :
    ((codeFrom start ts).filter fun p => isOpener p.2 || isCloser p.2) =
      (codeFrom start ts').filter fun p => isOpener p.2 || isCloser p.2 := by
  induction h generalizing start with
  | nil => rfl
  | cons ht _ ih =>
    cases ht with
    | same =>
      simp only [codeFrom]
      split_ifs
      · rw [List.filter_append, List.filter_append, ih]
      · exact ih _
    | word hw =>
      have hnone := filter_placed_word hw start
      simp only [codeFrom]
      split_ifs <;> simp only [List.filter_append, hnone, List.nil_append, ih]

lemma isOpenString_of_ne {k : Category} (h : k ≠ .string) (w : List Char) :
    isOpenString ⟨k, w⟩ = false := by
  cases k <;> simp_all [isOpenString]

/-- The same strings are open. -/
lemma openStringsFrom_recast (h : List.Forall₂ Recast ts ts') (start : ℕ) :
    openStringsFrom start ts = openStringsFrom start ts' := by
  induction h generalizing start with
  | nil => rfl
  | cons ht _ ih =>
    cases ht with
    | same => simp only [openStringsFrom, ih]
    | word hw hc hs hc' hs' =>
      simp only [openStringsFrom, isOpenString_of_ne hs, isOpenString_of_ne hs', ih]

/-- The same offsets lie inside comments. -/
lemma insideComment_recast (h : List.Forall₂ Recast ts ts') (start o : ℕ) :
    insideComment (spansFrom start ts) o = insideComment (spansFrom start ts') o := by
  induction h generalizing start with
  | nil => rfl
  | @cons t t' ts ts' ht _ ih =>
    cases ht with
    | same =>
      rw [spansFrom_cons, spansFrom_cons]
      rcases Nat.lt_or_ge o (start + bytes t.text) with ho | ho
      · rw [insideComment_cons_of_lt ho, insideComment_cons_of_lt ho]
      · rw [insideComment_cons_of_le ho, insideComment_cons_of_le ho, ih]
    | @word k k' w hw hc hs hc' hs' =>
      rw [spansFrom_cons, spansFrom_cons]
      rcases Nat.lt_or_ge o (start + bytes w) with ho | ho
      · rw [insideComment_cons_of_lt ho, insideComment_cons_of_lt ho]
        simp [hc, hc']
      · rw [insideComment_cons_of_le ho, insideComment_cons_of_le ho, ih]

end Readers

/-- The analysis finds the same in a text, whatever words are reserved. -/
theorem found_keywords (lang : Language) (ks ks' : List String) (rules : List Rule)
    (text : List Char) : found lang ks rules text = found lang ks' rules text := by
  have hts := recast_tokenize lang ks ks' text
  have hpass : passFrom (settingOf lang rules text) 1 (spans (tokenize lang ks text)) (lines text) =
      passFrom (settingOf lang rules text) 1 (spans (tokenize lang ks' text)) (lines text) := by
    have h := passFrom_correspond (s := settingOf lang rules text) (k := 0) (g := id) (by simp)
      (List.forall₂_same.mpr fun l _ => ⟨rfl,insideComment_recast hts 0 l.start⟩)
      (pairwise_lines text) (pairwise_lines text) 1
    rwa [List.map_id] at h
  have hbrackets : brackets (tokenize lang ks text) = brackets (tokenize lang ks' text) :=
    filter_codeFrom_recast hts 0
  simp only [found, hpass, bracketDiagnostics, hbrackets, stringDiagnostics,
    openStringsFrom_recast hts]

end EditAssist.Analysis

namespace EditAssist
open Analysis Token

/-- Reserved words color a text and do no more. Two sets of them cut the text into the same spans,
and a span has another category with one than with the other exactly if it covers a word that is
reserved in one of the two only. Catalogs that have the same rules for a language give the same
diagnostics on a text, in the same order, whatever words they reserve. -/
theorem keywords_only_recolor (lang : Language) (text : List Char) :
    (∀ ks ks' : List String, List.Forall₂ (Recolored lang ks ks' text)
      (spans (tokenize lang ks text)) (spans (tokenize lang ks' text))) ∧
    ∀ cat cat' : Catalog, cat.rules lang = cat'.rules lang →
      cat.analyze lang text = cat'.analyze lang text := by
  refine ⟨fun ks ks' => recolored_spansFrom lang ks ks' [] text,?_⟩
  intro cat cat' hrules
  rw [Catalog.analyze, Catalog.analyze, hrules, analyze_eq_arrange, analyze_eq_arrange,
    found_keywords lang (cat.keywords lang) (cat'.keywords lang)]

/-- A call of a word that the built-in catalog reserves, without a bracket to close it, and the same
rules in a catalog that reserves nothing. -/
theorem keywords_only_recolor_bare :
    let bare := Catalog.tabulate fun l => ⟨[], Catalog.builtin.rules l⟩
    "return" ∈ Catalog.builtin.keywords .c ∧ bare.keywords .c = [] ∧
    Catalog.builtin.rules .c = bare.rules .c ∧
    Catalog.builtin.analyze .c "return(x".toList = bare.analyze .c "return(x".toList := by
  intro bare
  have hmem : "return" ∈ Catalog.builtin.keywords .c := by decide
  have hrules : Catalog.builtin.rules .c = bare.rules .c := rfl
  exact ⟨hmem,rfl,hrules,(keywords_only_recolor .c "return(x".toList).2 _ _ hrules⟩

end EditAssist
