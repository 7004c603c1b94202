import EditAssist.Proofs.Catalog.Tables
import Mathlib.Data.List.Induction
import Mathlib.Data.Nat.Find

/-! Catalogs that are read once. A shelf reads its source at the first lookup and answers from what it
read then, whatever becomes of the files, until it is told to forget. So every lookup shows the files
as they were at one earlier moment, which the steps alone determine: the first lookup since the shelf
was made or last told to forget. -/
namespace EditAssist.Catalog.Shelf

/-- What can happen to a shelf and to the files around it. -/
inductive Step where
  | keywords (l : Language)
  | rules (l : Language)
  | isLoaded
  | invalidate
  | write (path : List Char) (content : List UInt8)
  | remove (path : List Char)

inductive Answer where
  | words (ws : List String)
  | rules (rs : List Rule)
  | loaded (b : Bool)
  | done

/-- A shelf and the files it reads from. -/
structure Setting where
  shelf : Shelf
  folder : Folder

def Setting.step (w : Setting) : Step → Answer × Setting
  | .keywords l =>
    let (cat, shelf) := w.shelf.consult w.folder.read
    (.words (cat.keywords l), { w with shelf })
  | .rules l =>
    let (cat, shelf) := w.shelf.consult w.folder.read
    (.rules (cat.rules l), { w with shelf })
  | .isLoaded => (.loaded w.shelf.isLoaded, w)
  | .invalidate => (.done, { w with shelf := w.shelf.invalidate })
  | .write path content => (.done, { w with folder := w.folder.write path content })
  | .remove path => (.done, { w with folder := w.folder.remove path })

def Setting.run (w : Setting) (steps : List Step) : Setting :=
  steps.foldl (fun w st => (w.step st).2) w

namespace Step

def isLookup : Step → Bool
  | .keywords _ | .rules _ => true
  | _ => false

/-- What a step makes of the files. -/
def change (folder : Folder) : Step → Folder
  | .write path content => folder.write path content
  | .remove path => folder.remove path
  | _ => folder

end Step

/-- The files as they are behind the first `n` steps. -/
def folderAt (folder : Folder) (steps : List Step) (n : ℕ) : Folder :=
  (steps.take n).foldl Step.change folder

lemma folderAt_concat (folder : Folder) (steps : List Step) (st : Step) {n : ℕ}
    (hn : n ≤ steps.length) : folderAt folder (steps ++ [st]) n = folderAt folder steps n := by
  rw [folderAt, List.take_append_of_le_length hn, folderAt]

/-- A lookup was made at step `k`, and nothing has been forgotten since. -/
def Lasts (steps : List Step) (k : ℕ) : Prop :=
  steps[k]?.any Step.isLookup = true ∧ .invalidate ∉ steps.drop (k + 1)

lemma Lasts.lt_length {steps : List Step} {k : ℕ} (h : Lasts steps k) : k < steps.length := by
  by_contra hk
  simpa [List.getElem?_eq_none (not_lt.mp hk)] using h.1

lemma lasts_concat {steps : List Step} {st : Step} {k : ℕ} :
    Lasts (steps ++ [st]) k ↔
      Lasts steps k ∧ st ≠ .invalidate ∨ k = steps.length ∧ st.isLookup = true := by
  rcases Nat.lt_trichotomy k steps.length with hk | rfl | hk
  · have hne : k ≠ steps.length := by omega
    have hmem : .invalidate ∉ steps.drop (k + 1) ++ [st] ↔
        .invalidate ∉ steps.drop (k + 1) ∧ st ≠ .invalidate := by
      rw [List.mem_append, not_or, List.mem_singleton, ne_comm]
    rw [Lasts, List.getElem?_append_left hk, List.drop_append_of_le_length hk, hmem, ← and_assoc]
    simp only [Lasts, hne, false_and, or_false]
  · simp [Lasts]
  · have hdone : ¬ Lasts steps k := fun h => absurd h.lt_length (by omega)
    have hdone' : ¬ Lasts (steps ++ [st]) k := by
      intro h
      have := h.lt_length
      simp only [List.length_append, List.length_singleton] at this
      omega
    have hne : k ≠ steps.length := by omega
    simp [hdone, hdone', hne]

/-- The first lookup since the shelf was made or last told to forget is the one at step `m`; the one
to come, behind all steps, counts as well. -/
def FirstLookup (steps : List Step) (m : ℕ) : Prop :=
  (Lasts steps m ∨ m = steps.length) ∧ ∀ k < m, ¬ Lasts steps k

lemma FirstLookup.le_length {steps : List Step} {m : ℕ} (h : FirstLookup steps m) :
    m ≤ steps.length := by
  rcases h.1 with hm | rfl
  · exact Nat.le_of_lt hm.lt_length
  · exact Nat.le_refl _

lemma FirstLookup.unique {steps : List Step} {m m' : ℕ} (h : FirstLookup steps m)
    (h' : FirstLookup steps m') : m = m' := by
  have hle {a b : ℕ} (ha : FirstLookup steps a) (hb : FirstLookup steps b) : a ≤ b := by
    by_contra hlt
    rcases hb.1 with hb | rfl
    · exact ha.2 b (by omega) hb
    · exact hlt ha.le_length
  exact Nat.le_antisymm (hle h h') (hle h' h)

open Classical in
lemma exists_firstLookup (steps : List Step) : ∃ m, FirstLookup steps m := by
  by_cases h : ∃ k, Lasts steps k
  · exact ⟨Nat.find h,.inl (Nat.find_spec h),fun k hk => Nat.find_min h hk⟩
  · exact ⟨steps.length,.inr rfl,fun k _ hk => h ⟨k,hk⟩⟩

/-- The first lookup does not change with a further step, unless that forgets it. -/
lemma FirstLookup.of_concat {steps : List Step} {st : Step} (hst : st ≠ .invalidate) {m : ℕ}
    (h : FirstLookup (steps ++ [st]) m) (hm : Lasts (steps ++ [st]) m) : FirstLookup steps m := by
  constructor
  · rcases lasts_concat.mp hm with ⟨hm,-⟩ | ⟨hm,-⟩
    · exact .inl hm
    · exact .inr hm
  · intro k hk hlast
    exact h.2 k hk (lasts_concat.mpr (.inl ⟨hlast,hst⟩))

/-- What a shelf and its files are like behind some steps. -/
structure Remembers (source : Source) (folder : Folder) (steps : List Step) (w : Setting) : Prop where
  source_eq : w.shelf.source = source
  folder_eq : w.folder = steps.foldl Step.change folder
  loaded_eq : ∀ m, FirstLookup steps m → Lasts steps m →
    w.shelf.loaded = some (source.load (folderAt folder steps m).read)
  loaded_eq_none : (∀ k, ¬ Lasts steps k) → w.shelf.loaded = none

lemma remembers_start (source : Source) (folder : Folder) :
    Remembers source folder [] ⟨{ source }, folder⟩ where
  source_eq := rfl
  folder_eq := rfl
  loaded_eq m _ hm := absurd hm.lt_length (Nat.not_lt_zero m)
  loaded_eq_none _ := rfl

section Steps

variable {source : Source} {folder : Folder} {steps : List Step} {w : Setting}

/-- A lookup shows the files as they were at the first lookup. -/
theorem Remembers.catalog_eq (h : Remembers source folder steps w) {m : ℕ}
    (hm : FirstLookup steps m) :
    w.shelf.catalog w.folder.read = source.load (folderAt folder steps m).read := by
  rcases hm.1 with hlast | rfl
  · rw [catalog, h.loaded_eq m hm hlast]
    rfl
  · have hnone : ∀ k, ¬ Lasts steps k := fun k hk => hm.2 k hk.lt_length hk
    rw [catalog, h.loaded_eq_none hnone, h.source_eq, h.folder_eq, folderAt, List.take_length]
    rfl

lemma Remembers.isLoaded_iff (h : Remembers source folder steps w) :
    w.shelf.isLoaded = true ↔ ∃ k, Lasts steps k := by
  constructor
  · intro hl
    by_contra hno
    rw [isLoaded, h.loaded_eq_none fun k hk => hno ⟨k,hk⟩] at hl
    contradiction
  · rintro ⟨k,hk⟩
    obtain ⟨m,hm⟩ := exists_firstLookup steps
    have hlast : Lasts steps m := by
      rcases hm.1 with hlast | rfl
      · exact hlast
      · exact absurd hk (hm.2 k hk.lt_length)
    rw [isLoaded, h.loaded_eq m hm hlast]
    rfl

lemma Remembers.lookup (h : Remembers source folder steps w) {st : Step}
    (hst : st.isLookup = true) :
    Remembers source folder (steps ++ [st])
      { w with shelf := (w.shelf.consult w.folder.read).2 } where
  source_eq := h.source_eq
  folder_eq := by
    have hchange : st.change w.folder = w.folder := by
      cases st with
      | keywords l => rfl
      | rules l => rfl
      | _ => contradiction
    rw [List.foldl_concat, ← h.folder_eq, hchange]
  loaded_eq m hm hlast := by
    have hne : st ≠ .invalidate := by
      rintro rfl
      contradiction
    have hm' := hm.of_concat hne hlast
    rw [folderAt_concat folder steps st hm'.le_length, ← h.catalog_eq hm']
    rfl
  loaded_eq_none hnone := absurd (lasts_concat.mpr (.inr ⟨rfl,hst⟩)) (hnone _)

/-- A step that neither looks anything up nor forgets may change the files. -/
lemma Remembers.pass (h : Remembers source folder steps w) {st : Step} (hst : st.isLookup = false)
    (hne : st ≠ .invalidate) :
    Remembers source folder (steps ++ [st]) { w with folder := st.change w.folder } where
  source_eq := h.source_eq
  folder_eq := by
    rw [List.foldl_concat, h.folder_eq]
  loaded_eq m hm hlast := by
    have hm' := hm.of_concat hne hlast
    rw [folderAt_concat folder steps st hm'.le_length]
    apply h.loaded_eq m hm'
    rcases lasts_concat.mp hlast with ⟨hlast,-⟩ | ⟨-,hl⟩
    · exact hlast
    · simp [hst] at hl
  loaded_eq_none hnone := by
    apply h.loaded_eq_none
    intro k hk
    exact hnone k (lasts_concat.mpr (.inl ⟨hk,hne⟩))

lemma Remembers.invalidate (h : Remembers source folder steps w) :
    Remembers source folder (steps ++ [.invalidate]) { w with shelf := w.shelf.invalidate } where
  source_eq := h.source_eq
  folder_eq := by
    rw [List.foldl_concat, ← h.folder_eq]
    rfl
  loaded_eq m _ hlast := by
    rcases lasts_concat.mp hlast with ⟨-,hne⟩ | ⟨-,hl⟩ <;> contradiction
  loaded_eq_none _ := rfl

/-- One step keeps to what the steps so far say. -/
theorem Remembers.step (h : Remembers source folder steps w) (st : Step) :
    Remembers source folder (steps ++ [st]) (w.step st).2 := by
  cases st with
  | keywords l => exact h.lookup rfl
  | rules l => exact h.lookup rfl
  | isLoaded => exact h.pass rfl (by simp)
  | invalidate => exact h.invalidate
  | write path content => exact h.pass rfl (by simp)
  | remove path => exact h.pass rfl (by simp)

end Steps

theorem remembers_run (source : Source) (folder : Folder) (steps : List Step) :
    Remembers source folder steps (Setting.run ⟨{ source }, folder⟩ steps) := by
  induction steps using List.reverseRecOn with
  | nil => exact remembers_start source folder
  | append_singleton steps st ih =>
    rw [Setting.run, List.foldl_concat]
    exact ih.step st

section Sources

/-- The document of a source while files read as they do: that of a file which can be read and is
UTF-8, or one that the source brings along. -/
inductive Holds (read : FileReader) : Source → List Char → Prop
  | file {path bytes document} : read path = .ok bytes → Text.decode? bytes = some document →
      Holds read (.file path) document
  | inline {document} : Holds read (.inline document) document

lemma document?_eq_some_iff {read : FileReader} {source : Source} {document : List Char} :
    source.document? read = some document ↔ Holds read source document := by
  constructor
  · intro h
    cases source with
    | builtin => contradiction
    | file path =>
      obtain ⟨bytes,hread,hbytes⟩ := Option.bind_eq_some_iff.mp h
      exact .file (toOption_eq_some_iff.mp hread) hbytes
    | inline text =>
      obtain rfl := Option.some.inj h
      exact .inline
  · intro h
    cases h with
    | file hread hbytes =>
      exact Option.bind_eq_some_iff.mpr ⟨_,toOption_eq_some_iff.mpr hread,hbytes⟩
    | inline => rfl

/-- The catalog of a source is the one that its document defines, and the built-in one if it has no
document or one that defines nothing. -/
theorem load_eq_iff {read : FileReader} {source : Source} {cat : Catalog} :
    source.load read = cat ↔
      (∃ document, Holds read source document ∧ Defines document cat) ∨
        cat = builtin ∧ ¬ ∃ document cat', Holds read source document ∧ Defines document cat' := by
  have hiff {cat' : Catalog} : (source.document? read).bind ofDocument? = some cat' ↔
      ∃ document, Holds read source document ∧ Defines document cat' := by
    simp only [Option.bind_eq_some_iff, document?_eq_some_iff, ofDocument?_eq_some_iff]
  rw [Source.load]
  cases hcat : (source.document? read).bind ofDocument? with
  | none =>
    have hno : ¬ ∃ document cat', Holds read source document ∧ Defines document cat' := by
      rintro ⟨document,cat',h⟩
      rw [hiff.mpr ⟨document,h⟩] at hcat
      contradiction
    constructor
    · rintro rfl
      exact .inr ⟨rfl,hno⟩
    · rintro (⟨document,h⟩ | ⟨rfl,-⟩)
      · exact absurd ⟨document,cat,h⟩ hno
      · rfl
  | some cat' =>
    obtain ⟨document,hd⟩ := hiff.mp hcat
    constructor
    · rintro rfl
      exact .inl ⟨document,hd⟩
    · rintro (h | ⟨-,hno⟩)
      · exact Option.some.inj (hcat.symm.trans (hiff.mpr h))
      · exact absurd ⟨document,cat',hd⟩ hno

end Sources

/-- Every lookup answers with the catalog of the source as the files were at one moment: the first
lookup since the shelf was made or last told to forget, which may be this lookup itself. The source
has been read if there was such a lookup before. The catalog of a source that has no document, or one
that defines nothing, is the built-in one. -/
theorem lookup_shows_first_reading (source : Source) (folder : Folder) (steps : List Step) :
    let w := Setting.run ⟨{ source }, folder⟩ steps
    (∃ m, FirstLookup steps m ∧ (∀ m', FirstLookup steps m' → m' = m) ∧
      let cat := source.load (folderAt folder steps m).read
      (∀ l, (w.step (.keywords l)).1 = .words (cat.keywords l)) ∧
      ∀ l, (w.step (.rules l)).1 = .rules (cat.rules l)) ∧
    (∃ b, (w.step .isLoaded).1 = .loaded b ∧ (b = true ↔ ∃ k, Lasts steps k)) ∧
    ∀ read cat, source.load read = cat ↔
      (∃ document, Holds read source document ∧ Defines document cat) ∨
        cat = builtin ∧ ¬ ∃ document cat', Holds read source document ∧ Defines document cat' := by
  intro w
  have h := remembers_run source folder steps
  obtain ⟨m,hm⟩ := exists_firstLookup steps
  refine ⟨⟨m,hm,fun m' hm' => hm'.unique hm,?_,?_⟩,⟨_,rfl,?_⟩,fun read cat => load_eq_iff⟩
  · intro l
    exact congrArg (fun cat : Catalog => Answer.words (cat.keywords l)) (h.catalog_eq hm)
  · intro l
    exact congrArg (fun cat : Catalog => Answer.rules (cat.rules l)) (h.catalog_eq hm)
  · exact h.isLoaded_iff

/-- A file that is written behind the first lookup, at which it was missing, does not show, though it
defines other keywords and a rule. -/
theorem lookup_shows_first_reading_missing :
    let document := "keywords.c=['x']\nrules.c=[['k','m','error','x']]".toList
    let source : Source := .file ['f']
    let steps : List Step :=
      [.isLoaded, .keywords .c, .write ['f'] (document.map fun c => c.toNat.toUInt8), .isLoaded]
    let w := Setting.run ⟨{ source }, {}⟩ steps
    FirstLookup steps 1 ∧ (∀ l, (w.step (.keywords l)).1 = .words (builtin.keywords l)) ∧
      (∀ l, (w.step (.rules l)).1 = .rules (builtin.rules l)) ∧
      (w.step .isLoaded).1 = .loaded true ∧ Holds w.folder.read source document ∧
      ∃ cat, Defines document cat ∧ cat.keywords .c ≠ builtin.keywords .c := by
  intro document source steps w
  have hlast : Lasts steps 1 := ⟨rfl,by simp [steps]⟩
  have hfirst : FirstLookup steps 1 := by
    refine ⟨.inl hlast,?_⟩
    intro k hk
    obtain rfl : k = 0 := by omega
    simp [Lasts, steps, Step.isLookup]
  have hread : w.folder.read ['f'] = .ok (document.map fun c => c.toNat.toUInt8) := rfl
  have hbytes : Text.decode? (document.map fun c => c.toNat.toUInt8) = some document := by
    decide +kernel
  have hparse : Toml.parse "keywords.c=['x']\nrules.c=[['k','m','error','x']]".toList = some
      [("keywords".toList, .table .dotted [(['c'], .array false [.string ['x']])]),
        ("rules".toList, .table .dotted [(['c'], .array false
          [.array false [.string ['k'], .string ['m'], .string "error".toList, .string ['x']]])])] := by
    decide +kernel
  have hkeywords : Language.c.keywords ≠ ["x"] := by decide
  obtain ⟨⟨m,-,hunique,hwords,hrules⟩,⟨b,hb,hloaded⟩,-⟩ := lookup_shows_first_reading source {} steps
  obtain rfl := hunique 1 hfirst
  obtain rfl : b = true := hloaded.mpr ⟨1,hlast⟩
  exact ⟨hfirst,hwords,hrules,hb,.file hread hbytes,_,
    ⟨_,_,decodes_of_parse hparse,.inl (List.cons_ne_nil _ _),rfl⟩,hkeywords.symm⟩

end EditAssist.Catalog.Shelf
