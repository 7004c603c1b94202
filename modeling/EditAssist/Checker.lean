import EditAssist.Analysis
import EditAssist.Catalog

/-! A checker analyses texts with the rules of a catalog and remembers its last result. -/
namespace EditAssist

structure Checker where
  shelf : Catalog.Shelf
  last : List Diagnostic := []

/-- The diagnostics on a text, with what a catalog knows of its language. -/
def Catalog.analyze (cat : Catalog) (lang : Language) (text : List Char) : List Diagnostic :=
  EditAssist.analyze lang (cat.keywords lang) (cat.rules lang) text

namespace Checker

/-- Analyse a text without remembering the result. -/
def analyze (c : Checker) (read : FileReader) (lang : Language) (text : List Char) :
    List Diagnostic × Checker :=
  let (cat, shelf) := c.shelf.consult read
  (cat.analyze lang text, { c with shelf })

/-- Analyse a text and remember the result. -/
def check (c : Checker) (read : FileReader) (lang : Language) (text : List Char) :
    List Diagnostic × Checker :=
  let (ds, c) := c.analyze read lang text
  (ds, { c with last := ds })

def clear (c : Checker) : Checker := { c with last := [] }

end Checker
end EditAssist
