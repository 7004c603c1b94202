import EditAssist.Checker
import EditAssist.Config

/-! A highlighter cuts texts into tokens and, if it is asked to, analyses them. It remembers the
tokens of the last text, and lays the diagnostics of the last text over its lines. -/
namespace EditAssist
open Text

/-- The tokens of a text in a language. -/
structure Highlight where
  text : List Char
  lang : Language
  tokens : List Token

/-- The background of a line with a diagnostic. -/
structure Overlay where
  extent : Extent
  severity : Severity
  deriving DecidableEq, Repr

def Overlay.style (o : Overlay) : Style := o.severity.overlayStyle

/-- One overlay for each diagnostic whose line the text has, in order. -/
def overlays (text : List Char) (ds : List Diagnostic) : List Overlay :=
  let index := LineIndex.ofText text
  ds.filterMap fun d => (index.lineRange text d.line).map (⟨·, d.severity⟩)

structure Highlighter where
  checker : Checker
  cache : Option Highlight := none
  lastText : List Char := []
  diagnosticsEnabled : Bool := true

namespace Highlighter

def make (source : Catalog.Source) (diagnosticsEnabled : Bool) : Highlighter :=
  { checker := { shelf := { source } }, diagnosticsEnabled }

def ofConfig (c : Config) : Highlighter := make (.ofPath c.catalogPath) c.diagnostics

/-- The tokens that are remembered for a text, if it is the last one. -/
def cached? (h : Highlighter) (lang : Language) (text : List Char) : Option (List Token) :=
  match h.cache with
  | none => none
  | some hl => if hl.lang = lang && hl.text = text then some hl.tokens else none

/-- The tokens of a text. Its diagnostics are remembered, or forgotten if they are not asked for. -/
def highlight (h : Highlighter) (read : FileReader) (lang : Language) (text : List Char) :
    List Token × Highlighter :=
  let checker := if h.diagnosticsEnabled then (h.checker.check read lang text).2 else h.checker.clear
  let h := { h with checker, lastText := text }
  match h.cached? lang text with
  | some tokens => (tokens, h)
  | none =>
    let (cat, shelf) := h.checker.shelf.consult read
    let tokens := Token.tokenize lang (cat.keywords lang) text
    (tokens, { h with checker := { h.checker with shelf }, cache := some ⟨text, lang, tokens⟩ })

def diagnostics (h : Highlighter) : List Diagnostic := h.checker.last

/-- The backgrounds of the lines of the last text. -/
def overlays (h : Highlighter) : List Overlay := EditAssist.overlays h.lastText h.diagnostics

/-- Forget the last text. -/
def invalidate (h : Highlighter) : Highlighter :=
  { h with checker := h.checker.clear, cache := none, lastText := [] }

def toggle (h : Highlighter) : Highlighter := { h with diagnosticsEnabled := !h.diagnosticsEnabled }

def enable (h : Highlighter) : Highlighter := { h with diagnosticsEnabled := true }

end Highlighter
end EditAssist
