import EditAssist.Toml.Scalar

/-! Reading a whole TOML document. The document is a sequence of lines: blank ones, comments,
headers that open a table, and entries for the table opened last. -/
namespace EditAssist.Toml

/-- A comment, if one starts here, up to the end of its line. -/
def dropComment (cs : Rest) : Rest :=
  match cs with
  | '#' :: rest => rest.dropWhile isPlainChar
  | _ => cs

/-- Drop the blanks, comments and line breaks between the values of a list; `comment` says whether
a comment is open. -/
def dropFiller : (comment : Bool) → Rest → Rest
  | _, [] => []
  | _, '\n' :: rest => dropFiller false rest
  | _, '\r' :: '\n' :: rest => dropFiller false rest
  | true, c :: rest => if isPlainChar c then dropFiller true rest else c :: rest
  | false, '#' :: rest => dropFiller true rest
  | false, c :: rest => if c = ' ' || c = '\t' then dropFiller false rest else c :: rest

def isBareChar (c : Char) : Bool := c.isAlphanum || c = '-' || c = '_'

/-- One part of a key: bare or quoted. -/
def readSimpleKey (fuel : Nat) (cs : Rest) : Option (List Char × Rest) :=
  match cs with
  | '"' :: rest => readBasic fuel rest
  | '\'' :: rest => readLiteral rest
  | _ =>
    let name := cs.takeWhile isBareChar
    if name.isEmpty then none else some (name, cs.drop name.length)

/-- How many levels lists, tables and keys may have, less one. -/
def depthLimit : Nat := 80

/-- The parts of a dotted key; blanks may stand around them. -/
def readKeyParts : (fuel : Nat) → Rest → Option (List (List Char) × Rest)
  | 0, _ => none
  | n + 1, cs =>
    match readSimpleKey n (dropBlanks cs) with
    | none => none
    | some (part, rest) =>
      match dropBlanks rest with
      | '.' :: more => (readKeyParts n more).map fun (parts, left) => (part :: parts, left)
      | rest => some ([part], rest)

/-- A key: the parts that lead to it, and its last part. -/
def readKey (fuel : Nat) (cs : Rest) : Option (List (List Char) × List Char × Rest) := do
  let (parts, rest) ← readKeyParts fuel cs
  if depthLimit ≤ parts.length then none
  let key ← parts.getLast?
  return (parts.dropLast, key, rest)

mutual

/-- A value; `depth` is how many values it stands in. -/
def readValue : (fuel depth : Nat) → Rest → Option (Value × Rest)
  | 0, _, _ => none
  | n + 1, depth, '[' :: rest =>
    if depthLimit ≤ depth + 1 then none
    else (readItems n (depth + 1) rest).map fun (vs, left) => (.array false vs, left)
  | n + 1, depth, '\x7b' :: rest =>
    if depthLimit ≤ depth + 1 then none
    else
      match dropBlanks rest with
      | '\x7d' :: left => some (.table .inline [], left)
      | rest => (readPairs n (depth + 1) [] rest).map fun (es, left) => (.table .inline es, left)
  | n + 1, _, cs => readScalar n cs

/-- The values of a list, up to its closing bracket; a comma may follow the last one. -/
def readItems : (fuel depth : Nat) → Rest → Option (List Value × Rest)
  | 0, _, _ => none
  | n + 1, depth, cs =>
    match dropFiller false cs with
    | ']' :: left => some ([], left)
    | cs =>
      match readValue n depth cs with
      | none => none
      | some (v, rest) =>
        match dropFiller false rest with
        | ',' :: more => (readItems n depth more).map fun (vs, left) => (v :: vs, left)
        | ']' :: left => some ([v], left)
        | _ => none

/-- The entries of a table written as a value, up to its closing brace. -/
def readPairs : (fuel depth : Nat) → Entries → Rest → Option (Entries × Rest)
  | 0, _, _, _ => none
  | n + 1, depth, es, cs =>
    match readKey n cs with
    | none => none
    | some (path, key, rest) =>
      match rest with
      | '=' :: rest =>
        match readValue n depth (dropBlanks rest) with
        | none => none
        | some (v, rest) =>
          match addDotted key v path es with
          | none => none
          | some es =>
            match dropBlanks rest with
            | ',' :: more => readPairs n depth es more
            | '\x7d' :: left => some (es, left)
            | _ => none
      | _ => none

end

/-- The end of a line: blanks, a comment, and a line break or the end of the document. -/
def readLineEnd (cs : Rest) : Option Rest :=
  match dropComment (dropBlanks cs) with
  | [] => some []
  | cs => newline? cs

/-- What has been read of a document: its entries, and the path of the table opened last. -/
structure Draft where
  entries : Entries := []
  path : List (List Char) := []

/-- A header that opens a table or the next table of a list. -/
def readHeader (fuel : Nat) (d : Draft) (cs : Rest) : Option (Draft × Rest) := do
  match cs with
  | '[' :: '[' :: rest =>
    let (path, key, rest) ← readKey fuel rest
    match rest with
    | ']' :: ']' :: rest =>
      return (⟨← openNext path key d.entries, path ++ [key]⟩, ← readLineEnd rest)
    | _ => none
  | '[' :: rest =>
    let (path, key, rest) ← readKey fuel rest
    match rest with
    | ']' :: rest => return (⟨← openTable path key d.entries, path ++ [key]⟩, ← readLineEnd rest)
    | _ => none
  | _ => none

/-- An entry for the table opened last. -/
def readEntry (fuel : Nat) (d : Draft) (cs : Rest) : Option (Draft × Rest) := do
  let (path, key, rest) ← readKey fuel cs
  match rest with
  | '=' :: rest =>
    let (v, rest) ← readValue (2 * fuel) 0 (dropBlanks rest)
    return (⟨← along (addDotted key v path) d.path d.entries, d.path⟩, ← readLineEnd rest)
  | _ => none

/-- Read lines to the end of the document. Every turn takes at least one character, so the fuel stays
above the number of characters left; within a line it bounds the keys and values. -/
def readLines : (fuel : Nat) → Draft → Rest → Option Draft
  | 0, _, _ => none
  | n + 1, d, cs =>
    match dropBlanks cs with
    | [] => some d
    | c :: rest =>
      if c = '#' then
        match readLineEnd (c :: rest) with
        | none => none
        | some left => readLines n d left
      else if c = '\n' || c = '\r' then
        match newline? (c :: rest) with
        | none => none
        | some left => readLines n d left
      else
        match if c = '[' then readHeader n d (c :: rest) else readEntry n d (c :: rest) with
        | none => none
        | some (d, left) => readLines n d left

/-- The entries of a document. A byte order mark at its start means nothing. -/
def parse (text : List Char) : Option Entries :=
  let cs := match text with
    | '\ufeff' :: rest => rest
    | _ => text
  (readLines (cs.length + 1) {} cs).map (·.entries)

example : (parse "a = [1, # x\n 2]".toList).isSome := by decide +kernel
example : (parse "a = 1\na = 2".toList).isNone := by decide +kernel

end EditAssist.Toml
