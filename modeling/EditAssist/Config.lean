import EditAssist.History
import EditAssist.Text.Blank
import EditAssist.Text.Lines

/-! Settings of the editor, one `key = value` line each. Blank lines and lines that start with `#`
say nothing, a later line for a key replaces an earlier one, and a value that makes no sense leaves
the default. -/
namespace EditAssist
open Text

structure Config where
  /-- Where the rule catalog is; the built-in rules hold if there is none. -/
  catalogPath : Option (List Char) := none
  undoLimit : Nat := 100
  debounceMs : Nat := 500
  checkpointIdleMs : Nat := 2000
  checkpointMinChars : Nat := 3
  diagnostics : Bool := true
  deriving DecidableEq, Repr

namespace Config

/-- The setting on a line, with its key in lower case. -/
def setting? (line : List Char) : Option (List Char × List Char) :=
  let t := trim line
  if t.isEmpty || t.head? = some '#' then none
  else (splitOnce '=' t).map fun (key, value) => (lowerName (trim key), trim value)

def settings (contents : List Char) : List (List Char × List Char) :=
  (endedLines contents).filterMap setting?

/-- The value of the last setting with a key. -/
def last? (ss : List (List Char × List Char)) (key : String) : Option (List Char) :=
  ss.reverse.lookup key.toList

/-- A whole number below two to the 64: digits, and a plus sign before them if one likes. -/
def number? (t : List Char) : Option Nat :=
  let digits := match t with
    | '+' :: rest => rest
    | _ => t
  if digits.isEmpty || !digits.all Char.isDigit then none
  else
    let n := digits.foldl (fun n d => 10 * n + (d.toNat - '0'.toNat)) 0
    if n < UInt64.size then some n else none

def clamp (lo hi n : Nat) : Nat := max lo (min hi n)

/-- Whether a value means yes. -/
def isYes (t : List Char) : Bool :=
  ["true", "yes", "on", "1"].contains (String.ofList (lowerName t))

/-- The configuration that settings make. -/
def ofSettings (ss : List (List Char × List Char)) : Config :=
  let number (key : String) : Option Nat := (last? ss key).bind number?
  { catalogPath := (last? ss "catalog").filter (!·.isEmpty)
    undoLimit := ((number "undo-limit").map (clamp 1 10000)).getD 100
    debounceMs := ((number "debounce-ms").map (clamp 50 5000)).getD 500
    checkpointIdleMs := (number "checkpoint-idle-ms").getD 2000
    checkpointMinChars := ((number "checkpoint-min-chars").map (max 1)).getD 3
    diagnostics := ((last? ss "diagnostics").map isYes).getD true }

/-- The configuration in the contents of a file. -/
def ofContents (contents : List Char) : Config := ofSettings (settings contents)

def limits (c : Config) : History.Limits :=
  ⟨c.undoLimit, c.checkpointMinChars, c.checkpointIdleMs⟩

def fileName : String := ".lintpad.conf"

/-- Where the configuration is in a home folder. -/
def pathIn (home : List Char) : List Char :=
  if home.isEmpty || home.getLast? = some '/' then home ++ fileName.toList
  else home ++ '/' :: fileName.toList

example : (ofContents "undo-limit = 0\ndiagnostics = off".toList).undoLimit = 1 := by cbv
example : ofContents "debounce-ms = 60\ndebounce-ms = x".toList = {} := by cbv

end Config
end EditAssist
