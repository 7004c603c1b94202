/-! Values of a TOML document. A table remembers how it came about, because that decides what later
lines of the document may still add to it. -/
namespace EditAssist.Toml

/-- How a table came about. -/
inductive Origin where
  /-- Written as a value; nothing can be added. -/
  | inline
  /-- Opened by a header of its own; a second header may not open it again. -/
  | header
  /-- On the path of a header; a header may still open it. -/
  | implied
  /-- On the path of a dotted key; more dotted keys may add to it. -/
  | dotted
  deriving DecidableEq, Repr

inductive Value where
  | string (text : List Char)
  | integer (n : Int)
  | float (text : List Char)
  | boolean (b : Bool)
  /-- A date, a time or both, in its plain form. -/
  | datetime (text : List Char)
  /-- A list; `growing` if headers add to it. -/
  | array (growing : Bool) (items : List Value)
  | table (origin : Origin) (entries : List (List Char × Value))
  deriving Repr

mutual

/-- Whether two values are the same. -/
def Value.same : Value → Value → Bool
  | .string s, .string t => s = t
  | .integer m, .integer n => m = n
  | .float s, .float t => s = t
  | .boolean a, .boolean b => a = b
  | .datetime s, .datetime t => s = t
  | .array g vs, .array h ws => g = h && sameItems vs ws
  | .table o es, .table p fs => o = p && sameEntries es fs
  | _, _ => false

def sameItems : List Value → List Value → Bool
  | [], [] => true
  | v :: vs, w :: ws => v.same w && sameItems vs ws
  | _, _ => false

def sameEntries : List (List Char × Value) → List (List Char × Value) → Bool
  | [], [] => true
  | (k, v) :: es, (l, w) :: fs => k = l && v.same w && sameEntries es fs
  | _, _ => false

end

mutual

theorem Value.same_iff (v w : Value) : v.same w = true ↔ v = w := by
  cases v <;> cases w
  case array.array g vs h ws => simp [Value.same, sameItems_iff vs ws]
  case table.table o es p fs => simp [Value.same, sameEntries_iff es fs]
  all_goals simp [Value.same]

theorem sameItems_iff (vs ws : List Value) : sameItems vs ws = true ↔ vs = ws := by
  match vs, ws with
  | [], [] => simp [sameItems]
  | [], _ :: _ => simp [sameItems]
  | _ :: _, [] => simp [sameItems]
  | v :: vs, w :: ws => simp [sameItems, Value.same_iff v w, sameItems_iff vs ws]

theorem sameEntries_iff (es fs : List (List Char × Value)) :
    sameEntries es fs = true ↔ es = fs := by
  match es, fs with
  | [], [] => simp [sameEntries]
  | [], _ :: _ => simp [sameEntries]
  | _ :: _, [] => simp [sameEntries]
  | (k, v) :: es, (l, w) :: fs =>
    simp [sameEntries, Value.same_iff v w, sameEntries_iff es fs, and_assoc]

end

-- a nested type derives no equality test
instance : DecidableEq Value := fun v w => decidable_of_iff _ (Value.same_iff v w)

/-- The entries of a table, each with its key. -/
abbrev Entries := List (List Char × Value)

namespace Entries

def get? (es : Entries) (key : List Char) : Option Value := es.lookup key

/-- Add an entry, or change the one that has the key. -/
def set (es : Entries) (key : List Char) (v : Value) : Entries :=
  match es with
  | [] => [(key, v)]
  | (k, w) :: rest => if k = key then (key, v) :: rest else (k, w) :: set rest key v

end Entries

/-- A table where only dotted keys lead on: add a value at the end of a dotted key. A key leads only
through tables that no header opened, and ends in one that dotted keys made. -/
def addDotted (key : List Char) (v : Value) : List (List Char) → Entries → Option Entries
  | [], es => if (es.get? key).isSome then none else some (es.set key v)
  | p :: path, es =>
    match es.get? p with
    | none => (addDotted key v path []).map fun inner => es.set p (.table .dotted inner)
    | some (.table .dotted inner) =>
      (addDotted key v path inner).map fun inner => es.set p (.table .dotted inner)
    | some (.table .implied inner) =>
      if path.isEmpty then none
      else (addDotted key v path inner).map fun inner => es.set p (.table .implied inner)
    | some (.array true items) =>
      match path.isEmpty, items.getLast? with
      | false, some (.table o inner) =>
        (addDotted key v path inner).map fun inner =>
          es.set p (.array true (items.dropLast ++ [.table o inner]))
      | _, _ => none
    | some _ => none

/-- Follow the path of a header and change the entries at its end. A path leads through tables that
are not values, and into the last table of a growing list. -/
def along (change : Entries → Option Entries) : List (List Char) → Entries → Option Entries
  | [], es => change es
  | p :: path, es =>
    match es.get? p with
    | none => (along change path []).map fun inner => es.set p (.table .implied inner)
    | some (.table .inline _) => none
    | some (.table o inner) => (along change path inner).map fun inner => es.set p (.table o inner)
    | some (.array true items) =>
      match items.getLast? with
      | some (.table o inner) =>
        (along change path inner).map fun inner =>
          es.set p (.array true (items.dropLast ++ [.table o inner]))
      | _ => none
    | some _ => none

/-- Open a table by its header. -/
def openTable (path : List (List Char)) (key : List Char) (es : Entries) : Option Entries :=
  along (fun es =>
    match es.get? key with
    | none => some (es.set key (.table .header []))
    | some (.table .implied inner) => some (es.set key (.table .header inner))
    | some _ => none) path es

/-- Open the next table of a growing list by its header. -/
def openNext (path : List (List Char)) (key : List Char) (es : Entries) : Option Entries :=
  along (fun es =>
    match es.get? key with
    | none => some (es.set key (.array true [.table .header []]))
    | some (.array true items) => some (es.set key (.array true (items ++ [.table .header []])))
    | some _ => none) path es

end EditAssist.Toml
