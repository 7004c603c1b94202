import EditAssist.Catalog
import Mathlib.Data.List.Basic

/-! What the tables of a catalog say. Each language takes its keywords and its rules from one list;
an element that says nothing is passed over, and nothing else changes for it. As long as no two
entries of a table are for the same language, the order of the entries does not matter. -/
namespace EditAssist.Catalog
open Toml (Value Entries)

section Rules

/-- A value that reads as a text in a rule: a string, or a date as it is written. -/
def HasText (v : Value) (t : List Char) : Prop := v = .string t ∨ v = .datetime t

/-- A table with a value of some kind under a key. -/
def HasField (es : Entries) (key : String) (p : Value → Prop) : Prop :=
  ∃ v, es.get? key.toList = some v ∧ p v

/-- A value that reads as a pattern: a text, or one under `regex` in a table, or one alone in a
list. -/
inductive HasPattern : Value → List Char → Prop
  | plain {v t} : HasText v t → HasPattern v t
  | nested {o es t} : HasField es "regex" (HasText · t) → HasPattern (.table o es) t
  | single {g v t} : HasText v t → HasPattern (.array g [v]) t

/-- A well-formed entry of a list of rules, with the type, message, severity and pattern it gives: a
table, in which the severity may be left out, or a list of the four. -/
inductive Describes : Value → List Char → List Char → List Char → List Char → Prop
  | table {o es kind message severity pattern} : HasField es "type" (HasText · kind) →
      HasField es "message" (HasText · message) →
      (es.get? "severity".toList = none ∧ severity = [] ∨
        HasField es "severity" (HasText · severity)) →
      HasField es "pattern" (HasPattern · pattern) →
      Describes (.table o es) kind message severity pattern
  | list {g a b c d kind message severity pattern} : HasText a kind → HasText b message →
      HasText c severity → HasPattern d pattern →
      Describes (.array g [a, b, c, d]) kind message severity pattern

/-- An entry that is well formed and whose pattern is one, with its rule. -/
def Compiles (v : Value) (r : Rule) : Prop :=
  ∃ kind message severity pattern, Describes v kind message severity pattern ∧
    Rule.make (String.ofList kind) (String.ofList pattern) (String.ofList message)
      (Severity.ofCatalog severity) = .ok r

lemma toOption_eq_some_iff {ε α : Type} {x : Except ε α} {a : α} :
    x.toOption = some a ↔ x = .ok a := by
  cases x <;> simp [Except.toOption]

/-- The rules of the entries of a list that compile, in order; the other entries are passed over. -/
inductive Compiled : List Value → List Rule → Prop
  | nil : Compiled [] []
  | keep {v r vs rs} : Compiles v r → Compiled vs rs → Compiled (v :: vs) (r :: rs)
  | skip {v vs rs} : (∀ r, ¬ Compiles v r) → Compiled vs rs → Compiled (v :: vs) rs

end Rules

section Lists

/-- The list that a table has for a language. -/
def ListFor (es : Entries) (l : Language) (vs : List Value) : Prop :=
  ∃ name g, (name, .array g vs) ∈ es ∧ Language.ofName? name = some l

/-- Of two tables, the second has one element more in one of its lists. -/
def Gains (extra : Value → Prop) (es es' : Entries) : Prop :=
  ∃ front back name g g' xs v ys, extra v ∧ es = front ++ (name, .array g (xs ++ ys)) :: back ∧
    es' = front ++ (name, .array g' (xs ++ v :: ys)) :: back

end Lists

section Catalogs

/-- A document that reads as two tables. -/
def Decodes (document : List Char) (kw ru : Entries) : Prop :=
  ∃ es, Toml.parse document = some es ∧ tableOf (es.get? "keywords".toList) = some kw ∧
    tableOf (es.get? "rules".toList) = some ru

lemma decodes_of_parse {document : List Char} {o o' : Toml.Origin} {kw ru : Entries}
    (h : Toml.parse document =
      some [("keywords".toList, .table o kw), ("rules".toList, .table o' ru)]) :
    Decodes document kw ru := by
  have hne : ("rules".toList == "keywords".toList) = false := by decide
  refine ⟨_,h,?_,?_⟩
  · rw [Entries.get?, List.lookup_cons_self]
    rfl
  · rw [Entries.get?, List.lookup_cons, hne]
    rw [List.lookup_cons_self]
    rfl

/-- A document defines a catalog if it reads as two tables that are not both empty. -/
def Defines (document : List Char) (cat : Catalog) : Prop :=
  ∃ kw ru, Decodes document kw ru ∧ (kw ≠ [] ∨ ru ≠ []) ∧ ofTables kw ru = cat

lemma ofDocument?_eq_some_iff {document : List Char} {cat : Catalog} :
    ofDocument? document = some cat ↔ Defines document cat := by
  have hempty (kw ru : Entries) : (kw.isEmpty && ru.isEmpty) = true ↔ ¬ (kw ≠ [] ∨ ru ≠ []) := by
    simp
  constructor
  · intro h
    obtain ⟨es,hes,h⟩ := Option.bind_eq_some_iff.mp h
    obtain ⟨kw,hkw,h⟩ := Option.bind_eq_some_iff.mp h
    obtain ⟨ru,hru,h⟩ := Option.bind_eq_some_iff.mp h
    split_ifs at h with hne
    rw [hempty, not_not] at hne
    exact ⟨kw,ru,⟨es,hes,hkw,hru⟩,hne,Option.some.inj h⟩
  · rintro ⟨kw,ru,⟨es,hes,hkw,hru⟩,hne,rfl⟩
    refine Option.bind_eq_some_iff.mpr ⟨es,hes,Option.bind_eq_some_iff.mpr ⟨kw,hkw,
      Option.bind_eq_some_iff.mpr ⟨ru,hru,?_⟩⟩⟩
    rw [if_neg]
    rwa [hempty, not_not]

/-- The keywords and rules of each language are those of its lists. A list of rules gives the rules
of its entries that compile, in order. -/
structure Follows (cat : Catalog) (kw ru : Entries) (l : Language) : Prop where
  mem_keywords_iff : ∀ vs, ListFor kw l vs → ∀ w, w ∈ cat.keywords l ↔ .string w.toList ∈ vs
  keywords_eq : (¬ ∃ vs, ListFor kw l vs) → cat.keywords l = l.keywords
  compiled_rules : ∀ vs, ListFor ru l vs → Compiled vs (cat.rules l)
  rules_eq_nil : (¬ ∃ vs, ListFor ru l vs) → cat.rules l = []

lemma Gains.ne_nil {extra : Value → Prop} {es es' : Entries} (h : Gains extra es es') : es' ≠ [] := by
  obtain ⟨front,back,name,g,g',xs,v,ys,-,-,rfl⟩ := h
  simp

end Catalogs
end EditAssist.Catalog
