import EditAssist.Pattern.Flags
import EditAssist.Unicode.Letter
import EditAssist.Unicode.Lookup

/-! Escapes of the pattern notation: what follows a backslash. Every reader here takes the rest of
the pattern and gives back what it read with what is left, or nothing if the notation is wrong. -/
namespace EditAssist.Pattern
open Unicode

/-- Drop blanks and comments; `inComment` says whether a comment is being dropped. -/
def dropSpace : Bool → List Char → List Char
  | _, [] => []
  | true, c :: cs => dropSpace (c != '\n') cs
  | false, c :: cs =>
    if isBlank c then dropSpace false cs
    else if c = '#' then dropSpace true cs
    else c :: cs

/-- In the verbose mode blanks and comments mean nothing. -/
def Flags.skip (f : Flags) (cs : List Char) : List Char :=
  if f.verbose then dropSpace false cs else cs

/-- A piece of notation that stands for one character, one class or one condition. -/
inductive Atom where
  | literal (c : Char)
  | set (members : CodeSet)
  | look (condition : Look)

def isMeta (c : Char) : Bool :=
  "\\.+*?()|[]\x7b\x7d^$#&-~".toList.contains c

/-- A character that stands for itself after a backslash. -/
def isEscapable (c : Char) : Bool :=
  isMeta c || (c.toNat < 0x80 && !c.isAlphanum && c != '<' && c != '>')

def hexValue? (c : Char) : Option Nat :=
  if c.isDigit then some (c.toNat - '0'.toNat)
  else if 'a' ≤ c ∧ c ≤ 'f' then some (c.toNat - 'a'.toNat + 10)
  else if 'A' ≤ c ∧ c ≤ 'F' then some (c.toNat - 'A'.toNat + 10)
  else none

/-- The character with a code point, if there is one. -/
def charOf? (n : Nat) : Option Char :=
  if n.isValidChar then some (Char.ofNat n) else none

/-- Exactly `count` hexadecimal digits. -/
def readHexDigits (f : Flags) : (count : Nat) → (value : Nat) → List Char → Option (Nat × List Char)
  | 0, v, cs => some (v, cs)
  | _ + 1, _, [] => none
  | n + 1, v, c :: cs =>
    match hexValue? c with
    | none => none
    | some d => readHexDigits f n (16 * v + d) (f.skip cs)

/-- The hexadecimal digits up to a closing brace; at least one. -/
def readHexBraced (f : Flags) : (fuel : Nat) → Option Nat → List Char → Option (Nat × List Char)
  | 0, _, _ => none
  | _ + 1, _, [] => none
  | n + 1, v, c :: cs =>
    if c = '\x7d' then v.map (·, f.skip cs)
    else match hexValue? c with
      | none => none
      | some d => readHexBraced f n (some (16 * v.getD 0 + d)) (f.skip cs)

/-- A code point after `x`, `u` or `U`. Without the wide alphabet, a two-digit code outside ASCII
would be a byte that is no character. -/
def readCode (f : Flags) (letter : Char) (cs : List Char) : Option (Atom × List Char) := do
  match f.skip cs with
  | '\x7b' :: rest =>
    let (n, left) ← readHexBraced f (rest.length + 1) none (f.skip rest)
    return (.literal (← charOf? n), left)
  | rest =>
    let digits := if letter = 'x' then 2 else if letter = 'u' then 4 else 8
    let (n, left) ← readHexDigits f digits 0 rest
    if letter = 'x' && !f.wide && n > 0x7F then none
    else return (.literal (← charOf? n), left)

/-- The text up to a closing brace. -/
def readBraced (f : Flags) : (fuel : Nat) → List Char → Option (List Char × List Char)
  | 0, _ => none
  | _ + 1, [] => none
  | n + 1, c :: cs =>
    if c = '\x7d' then some ([], cs)
    else (readBraced f n (f.skip cs)).map fun (name, left) => (c :: name, left)

/-- The text before the first `!=` and the text after it. -/
def splitUnequal : List Char → Option (List Char × List Char)
  | '!' :: '=' :: rest => some ([], rest)
  | [] => none
  | c :: cs => (splitUnequal cs).map fun (a, b) => (c :: a, b)

/-- The set a braced class name stands for, and whether the name itself negates it. -/
def namedClass (name : List Char) : Option (CodeSet × Bool) :=
  match splitUnequal name with
  | some (p, v) => (Lookup.byValue? p v).map (·, true)
  | none =>
    match (Text.splitOnce ':' name <|> Text.splitOnce '=' name) with
    | some (p, v) => (Lookup.byValue? p v).map (·, false)
    | none => (Lookup.byName? name).map (·, false)

/-- A class after `p` or `P`. -/
def readNamedClass (f : Flags) (negated : Bool) (cs : List Char) : Option (Atom × List Char) := do
  if !f.wide then none
  match f.skip cs with
  | [] => none
  | '\x7b' :: rest =>
    let (name, left) ← readBraced f (rest.length + 1) (f.skip rest)
    let (members, unequal) ← namedClass name
    return (.set (← f.finish (negated != unequal) members), left)
  | c :: rest =>
    if c = '\\' then none
    let members ← Lookup.byName? [c]
    return (.set (← f.finish negated members), rest)

def isEdgeLetter (c : Char) : Bool := c.isAlpha || c = '-'

/-- The letters of a word condition's name, blanks aside. -/
def readEdgeName (f : Flags) : (fuel : Nat) → List Char → List Char × List Char
  | 0, cs => ([], cs)
  | _ + 1, [] => ([], [])
  | n + 1, c :: cs =>
    if isEdgeLetter c then
      let (name, left) := readEdgeName f n (f.skip cs)
      (c :: name, left)
    else ([], c :: cs)

/-- A word condition after `b`: plain, or with a name in braces. Braces that hold no name are left
for a count of repetitions. -/
def readEdge (f : Flags) (cs : List Char) : Option (Atom × List Char) :=
  match cs with
  | '\x7b' :: rest =>
    match f.skip rest with
    | [] => none
    | c :: rest' =>
      if isEdgeLetter c then
        match readEdgeName f (rest'.length + 1) (c :: rest') with
        | (name, '\x7d' :: left) =>
          match String.ofList name with
          | "start" => some (.look (.wordStart f.wide), left)
          | "end" => some (.look (.wordEnd f.wide), left)
          | "start-half" => some (.look (.wordStartHalf f.wide), left)
          | "end-half" => some (.look (.wordEndHalf f.wide), left)
          | _ => none
        | _ => none
      else some (.look (.wordEdge f.wide), cs)
  | _ => some (.look (.wordEdge f.wide), cs)

/-- What stands after a backslash. Digits would be back references, which patterns do not have. -/
def readEscape (f : Flags) (cs : List Char) : Option (Atom × List Char) :=
  match cs with
  | [] => none
  | c :: rest =>
    match c with
    | 'x' | 'u' | 'U' => readCode f c rest
    | 'p' => readNamedClass f false rest
    | 'P' => readNamedClass f true rest
    | 'd' | 's' | 'w' => (f.shorthand false c).map (.set ·, rest)
    | 'D' | 'S' | 'W' => (f.shorthand true c.toLower).map (.set ·, rest)
    | 'a' => some (.literal '\x07', rest)
    | 'f' => some (.literal '\x0c', rest)
    | 't' => some (.literal '\t', rest)
    | 'n' => some (.literal '\n', rest)
    | 'r' => some (.literal '\r', rest)
    | 'v' => some (.literal '\x0b', rest)
    | 'A' => some (.look .textStart, rest)
    | 'z' => some (.look .textEnd, rest)
    | 'b' => readEdge f rest
    | 'B' => some (.look (.wordInside f.wide), rest)
    | '<' => some (.look (.wordStart f.wide), rest)
    | '>' => some (.look (.wordEnd f.wide), rest)
    | _ => if isEscapable c then some (.literal c, rest) else none

end EditAssist.Pattern
