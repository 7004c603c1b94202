import EditAssist.Analysis
import EditAssist.Analysis.Brackets
import EditAssist.Analysis.Context
import EditAssist.Analysis.LineCheck
import EditAssist.Analysis.Unclosed
import EditAssist.Catalog
import EditAssist.Checker
import EditAssist.CommandLine
import EditAssist.Config
import EditAssist.Diagnostic
import EditAssist.Diagnostic.Order
import EditAssist.Folder
import EditAssist.Highlighter
import EditAssist.History
import EditAssist.Language
import EditAssist.Language.Detect
import EditAssist.Language.Keywords
import EditAssist.LineIndex
import EditAssist.Main
import EditAssist.Pattern
import EditAssist.Pattern.Brackets
import EditAssist.Pattern.Cost
import EditAssist.Pattern.Encoding
import EditAssist.Pattern.Escape
import EditAssist.Pattern.Expr
import EditAssist.Pattern.Flags
import EditAssist.Pattern.Layout
import EditAssist.Pattern.Program
import EditAssist.Pattern.Reader
import EditAssist.Proofs.Analysis.Balance
import EditAssist.Proofs.Analysis.Brackets
import EditAssist.Proofs.Analysis.Columns
import EditAssist.Proofs.Analysis.Offsets
import EditAssist.Proofs.Analysis.Places
import EditAssist.Proofs.History.Timeline
import EditAssist.Proofs.Pattern.Starts
import EditAssist.Proofs.Session.Debounce
import EditAssist.Proofs.Text.Boundary
import EditAssist.Proofs.Text.Lines
import EditAssist.Proofs.Token.Coverage
import EditAssist.Proofs.Token.Grammar
import EditAssist.Proofs.Token.Restart
import EditAssist.Proofs.Token.Segmentation
import EditAssist.Proofs.Token.Shape
import EditAssist.Rule
import EditAssist.Rule.Builtin
import EditAssist.Screen
import EditAssist.Search
import EditAssist.Session
import EditAssist.Style
import EditAssist.Text.Blank
import EditAssist.Text.Bytes
import EditAssist.Text.CharWidth
import EditAssist.Text.Find
import EditAssist.Text.Lines
import EditAssist.Text.Split
import EditAssist.Text.Utf8
import EditAssist.Text.Width
import EditAssist.Text.Words
import EditAssist.Token
import EditAssist.Token.Lexer
import EditAssist.Toml.Document
import EditAssist.Toml.Scalar
import EditAssist.Toml.Value
import EditAssist.Unicode.Break.Grapheme
import EditAssist.Unicode.Break.Sentence
import EditAssist.Unicode.Break.Word
import EditAssist.Unicode.Category
import EditAssist.Unicode.CodeSet
import EditAssist.Unicode.Edition
import EditAssist.Unicode.Folding
import EditAssist.Unicode.Letter
import EditAssist.Unicode.Lookup
import EditAssist.Unicode.Property
import EditAssist.Unicode.Script
import EditAssist.Proofs.Highlighter.Transparency
import EditAssist.Proofs.Analysis.Correspondence
import EditAssist.Proofs.Diagnostic.Order
import EditAssist.Proofs.Analysis.Shift
import EditAssist.Proofs.Text.Endings
import EditAssist.Proofs.Analysis.Endings
import EditAssist.Proofs.Analysis.Comments
import EditAssist.Proofs.Screen.Backgrounds
import EditAssist.Proofs.Analysis.Keywords
import EditAssist.Proofs.Analysis.LineCode
import EditAssist.Proofs.History.Coalescing
import EditAssist.Proofs.Analysis.Terminators
import EditAssist.Proofs.Catalog.Tables
import EditAssist.Proofs.Session.Expiry
import EditAssist.Proofs.Catalog.Snapshot
import EditAssist.Proofs.Screen.Reproduction
import EditAssist.Proofs.Diagnostic.Arrangement
import EditAssist.Proofs.Analysis.LinePass
import EditAssist.Proofs.CommandLine.Check
import EditAssist.Proofs.Text.LineIndex
import EditAssist.Proofs.Analysis.Strings
import EditAssist.Proofs.Analysis.DuplicateRules
import EditAssist.Proofs.Analysis.OpenComment
import EditAssist.Proofs.Search.Decomposition
import EditAssist.Proofs.Search.Packing
import EditAssist.Proofs.Screen.Severity
import EditAssist.Proofs.Session.Undebounced
import EditAssist.Proofs.Analysis.Depth
import EditAssist.Proofs.Text.Words
import EditAssist.Proofs.Token.ClosingQuote
import EditAssist.Proofs.Config.Settings
import EditAssist.Proofs.Session.Timer
import EditAssist.Proofs.Text.Pieces
