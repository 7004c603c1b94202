import EditAssist.Folder
import EditAssist.Language.Keywords
import EditAssist.Rule.Builtin
import EditAssist.Text.Utf8
import EditAssist.Toml.Document

/-! Rule catalogs: the reserved words and the rules of each language. A catalog is written as a TOML
document with two tables, `keywords` and `rules`, whose entries are lists under the names of
languages. An entry that makes no sense is passed over; a document that makes none stands for the
built-in catalog. -/
namespace EditAssist

/-- What a catalog knows of one language. -/
structure Catalog.Entry where
  keywords : List String
  rules : List Rule

structure Catalog where
  kotlin : Catalog.Entry
  java : Catalog.Entry
  python : Catalog.Entry
  cpp : Catalog.Entry
  c : Catalog.Entry

namespace Catalog
open Toml (Value Entries)

def tabulate (f : Language → Entry) : Catalog := ⟨f .kotlin, f .java, f .python, f .cpp, f .c⟩

def entry (cat : Catalog) : Language → Entry
  | .kotlin => cat.kotlin
  | .java => cat.java
  | .python => cat.python
  | .cpp => cat.cpp
  | .c => cat.c

@[simp] theorem entry_tabulate (f : Language → Entry) (l : Language) : (tabulate f).entry l = f l := by
  cases l <;> rfl

def keywords (cat : Catalog) (l : Language) : List String := (cat.entry l).keywords

def rules (cat : Catalog) (l : Language) : List Rule := (cat.entry l).rules

/-- The reserved words of a language in alphabetical order, each once. -/
def sortedKeywords (cat : Catalog) (l : Language) : List String :=
  (cat.keywords l).eraseDups.mergeSort fun a b => decide (a ≤ b)

/-- What holds when there is no other catalog. -/
def builtin : Catalog := tabulate fun l => ⟨l.keywords, Rule.builtin l⟩

/-- A text in a rule; a date counts as the text it is written as. -/
def textOf : Value → Option (List Char)
  | .string s => some s
  | .datetime s => some s
  | _ => none

/-- A pattern in a rule: plain, or under `regex` in a table, or alone in a list. -/
def patternOf : Value → Option (List Char)
  | .table _ es => (Entries.get? es "regex".toList).bind textOf
  | .array _ [v] => textOf v
  | v => textOf v

/-- The severity in a rule, which may be left out. -/
def severityOf : Option Value → Option (List Char)
  | none => some []
  | some v => textOf v

/-- The parts of a rule: its type, message, severity and pattern. -/
def ruleParts : Value → Option (List Char × List Char × List Char × List Char)
  | .table _ es => do
    let get (key : String) : Option Value := Entries.get? es key.toList
    return (← (get "type").bind textOf, ← (get "message").bind textOf,
      ← severityOf (get "severity"), ← (get "pattern").bind patternOf)
  | .array _ [kind, message, severity, pattern] => do
    return (← textOf kind, ← textOf message, ← textOf severity, ← patternOf pattern)
  | _ => none

/-- The rule of an entry, if it is well formed and its pattern is a pattern. -/
def ruleOf (v : Value) : Option Rule := do
  let (kind, message, severity, pattern) ← ruleParts v
  (Rule.make (String.ofList kind) (String.ofList pattern) (String.ofList message)
    (Severity.ofCatalog severity)).toOption

/-- The list that a table has for a language. -/
def listsFor (l : Language) (es : Entries) : List (List Value) :=
  es.filterMap fun (name, v) =>
    if Language.ofName? name = some l then
      match v with
      | .array _ vs => some vs
      | _ => none
    else none

/-- The texts of a list, each once. -/
def keywordsOf (vs : List Value) : List String :=
  (vs.filterMap fun v =>
    match v with
    | .string s => some (String.ofList s)
    | _ => none).eraseDups

/-- The catalog of two tables. A language without a list of keywords has the built-in ones, and one
without a list of rules has none. -/
def ofTables (keywords rules : Entries) : Catalog :=
  tabulate fun l =>
    { keywords := ((listsFor l keywords).getLast?.map keywordsOf).getD l.keywords
      rules := (listsFor l rules).flatten.filterMap ruleOf }

/-- The entries of a table that may be left out. A date reads as a table too, with an entry that
names no language. -/
def tableOf : Option Value → Option Entries
  | none => some []
  | some (.table _ es) => some es
  | some (.datetime s) => some [([], .string s)]
  | some _ => none

/-- The catalog of a document, if it is well formed and says anything. -/
def ofDocument? (document : List Char) : Option Catalog := do
  let es ← Toml.parse document
  let keywords ← tableOf (es.get? "keywords".toList)
  let rules ← tableOf (es.get? "rules".toList)
  if keywords.isEmpty && rules.isEmpty then none else some (ofTables keywords rules)

/-- Where a catalog comes from. -/
inductive Source where
  | builtin
  | file (path : List Char)
  | inline (document : List Char)
  deriving DecidableEq, Repr

namespace Source

def ofPath : Option (List Char) → Source
  | none => builtin
  | some path => file path

/-- The document of a source, as it is now, if it has one that can be read. -/
def document? (read : FileReader) : Source → Option (List Char)
  | builtin => none
  | file path => (read path).toOption.bind Text.decode?
  | inline document => some document

/-- The catalog of a source, as it is now. -/
def load (read : FileReader) (s : Source) : Catalog :=
  ((s.document? read).bind ofDocument?).getD Catalog.builtin

end Source

/-- A source with the catalog that was read from it, if it has been read. -/
structure Shelf where
  source : Source
  loaded : Option Catalog := none

namespace Shelf

def isLoaded (s : Shelf) : Bool := s.loaded.isSome

/-- The catalog: the one read before, or else the source read now. -/
def catalog (read : FileReader) (s : Shelf) : Catalog := s.loaded.getD (s.source.load read)

/-- Look at the catalog, which reads the source if it has not been read. -/
def consult (read : FileReader) (s : Shelf) : Catalog × Shelf :=
  let cat := s.catalog read
  (cat, { s with loaded := some cat })

/-- Forget what was read. -/
def invalidate (s : Shelf) : Shelf := { s with loaded := none }

end Shelf
end Catalog
end EditAssist
