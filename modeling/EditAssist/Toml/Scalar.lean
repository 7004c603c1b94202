import EditAssist.Pattern.Escape
import EditAssist.Toml.Value

/-! Reading the plain values of a TOML document: strings, numbers, dates and times. A reader takes
the rest of the document and gives what it read with what is left, or nothing if that is wrong. -/
namespace EditAssist.Toml

abbrev Rest := List Char

/-- A character that may stand in a comment: no control character but the tab. -/
def isPlainChar (c : Char) : Bool := c = '\t' || (0x20 ≤ c.toNat && c.toNat ≠ 0x7F)

def dropBlanks (cs : Rest) : Rest := cs.dropWhile fun c => c = ' ' || c = '\t'

/-- A line break, if there is one here. -/
def newline? : Rest → Option Rest
  | '\n' :: rest => some rest
  | '\r' :: '\n' :: rest => some rest
  | _ => none

/-- `n` hexadecimal digits as a character. -/
def readCodePoint (n : Nat) (cs : Rest) : Option (Char × Rest) := do
  let (code, rest) ← Pattern.readHexDigits {} n 0 cs
  return (← Pattern.charOf? code, rest)

/-- What stands after a backslash in a string. -/
def readEscape : Rest → Option (Char × Rest)
  | 'b' :: rest => some ('\x08', rest)
  | 't' :: rest => some ('\t', rest)
  | 'n' :: rest => some ('\n', rest)
  | 'f' :: rest => some ('\x0c', rest)
  | 'r' :: rest => some ('\r', rest)
  | '"' :: rest => some ('"', rest)
  | '\\' :: rest => some ('\\', rest)
  | 'u' :: rest => readCodePoint 4 rest
  | 'U' :: rest => readCodePoint 8 rest
  | _ => none

/-- The rest of a string on one line, up to its closing quote. -/
def readBasic : (fuel : Nat) → Rest → Option (List Char × Rest)
  | 0, _ => none
  | _ + 1, [] => none
  | _ + 1, '"' :: rest => some ([], rest)
  | n + 1, '\\' :: rest =>
    match readEscape rest with
    | none => none
    | some (c, rest) => (readBasic n rest).map fun (s, left) => (c :: s, left)
  | n + 1, c :: rest =>
    if isPlainChar c then (readBasic n rest).map fun (s, left) => (c :: s, left) else none

/-- The rest of a literal string on one line. -/
def readLiteral : Rest → Option (List Char × Rest)
  | [] => none
  | '\'' :: rest => some ([], rest)
  | c :: rest =>
    if isPlainChar c then (readLiteral rest).map fun (s, left) => (c :: s, left) else none

/-- How many of the first five characters are the given quote. -/
def quoteRun (q : Char) (cs : Rest) : Nat := ((cs.take 5).takeWhile (· == q)).length

/-- Blanks and line breaks. -/
def dropLines : Rest → Rest
  | ' ' :: rest => dropLines rest
  | '\t' :: rest => dropLines rest
  | '\n' :: rest => dropLines rest
  | '\r' :: '\n' :: rest => dropLines rest
  | cs => cs

/-- The rest of a string over several lines, up to three quotes; up to two more quotes before them
belong to the string. A line break counts as a newline, whatever its form. With `escapes`, a
backslash at the end of a line swallows the line break and the blanks that follow. -/
def readLong (q : Char) (escapes : Bool) : (fuel : Nat) → Rest → Option (List Char × Rest)
  | 0, _ => none
  | _ + 1, [] => none
  | n + 1, c :: rest =>
    if c = q then
      let run := quoteRun q (c :: rest)
      if 3 ≤ run then some (List.replicate (run - 3) q, (c :: rest).drop run)
      else (readLong q escapes n rest).map fun (s, left) => (c :: s, left)
    else if escapes && c = '\\' then
      match newline? (dropBlanks rest) with
      | some more => readLong q escapes n (dropLines more)
      | none =>
        match readEscape rest with
        | none => none
        | some (e, more) => (readLong q escapes n more).map fun (s, left) => (e :: s, left)
    else
      match newline? (c :: rest) with
      | some more => (readLong q escapes n more).map fun (s, left) => ('\n' :: s, left)
      | none =>
        if isPlainChar c then (readLong q escapes n rest).map fun (s, left) => (c :: s, left) else none

/-- A string; a line break right behind three opening quotes does not belong to it. -/
def readString (fuel : Nat) (cs : Rest) : Option (List Char × Rest) :=
  match cs with
  | '"' :: '"' :: '"' :: rest => readLong '"' true fuel ((newline? rest).getD rest)
  | '\'' :: '\'' :: '\'' :: rest => readLong '\'' false fuel ((newline? rest).getD rest)
  | '"' :: rest => readBasic fuel rest
  | '\'' :: rest => readLiteral rest
  | _ => none

/-- Digits with single underscores between them; `isDigit` says what a digit is. The result holds
the digits only. Nothing is read if there is no digit, and an underscore needs a digit behind it. -/
def readDigits (isDigit : Char → Bool) : Rest → Option (List Char × Rest)
  | [] => none
  | c :: rest => if isDigit c then more [c] rest else none
where
  more (acc : List Char) : Rest → Option (List Char × Rest)
    | '_' :: c :: rest => if isDigit c then more (c :: acc) rest else none
    | ['_'] => none
    | c :: rest => if isDigit c then more (c :: acc) rest else some (acc.reverse, c :: rest)
    | [] => some (acc.reverse, [])

def number (base : Nat) (digits : List Char) : Nat :=
  digits.foldl (fun n d => base * n + (Pattern.hexValue? d).getD 0) 0

/-- Whether an integer fits in 64 bits with a sign. -/
def fits (n : Int) : Bool := -0x8000000000000000 ≤ n && n < 0x8000000000000000

/-- An integer in another base, behind its mark. -/
def readBased (base : Nat) (isDigit : Char → Bool) (cs : Rest) : Option (Value × Rest) := do
  let (ds, rest) ← readDigits isDigit cs
  let n : Int := number base ds
  if fits n then return (.integer n, rest) else none

/-- A sign, as whether it is a minus. -/
def readSign : Rest → Bool × Rest
  | '-' :: rest => (true, rest)
  | '+' :: rest => (false, rest)
  | cs => (false, cs)

/-- The digits of a whole number: no zero in front of other digits. -/
def readWhole (cs : Rest) : Option (List Char × Rest) :=
  match cs with
  | '0' :: rest => some (['0'], rest)
  | _ => readDigits Char.isDigit cs

/-- Whether a decimal is too large to be finite in double precision: whether `digits`, with the
point moved by `exponent`, rounds up to two to the 1024. -/
def isHuge (digits : List Char) (exponent : Int) : Bool :=
  let m := number 10 digits
  let size : Int := (toString m).length + exponent
  if m = 0 || size < 300 then false
  else if size > 320 then true
  else
    let bound := Nat.pow 2 1024 - Nat.pow 2 970
    if 0 ≤ exponent then bound ≤ m * Nat.pow 10 exponent.toNat
    else bound * Nat.pow 10 (-exponent).toNat ≤ m

/-- An exponent: its mark, a sign and digits. The inner `none` says that there is none. -/
def readExponent (cs : Rest) : Option (Option Int × Rest) :=
  let behind (rest : Rest) : Option (Option Int × Rest) := do
    let (minus, rest) := readSign rest
    let (ds, rest) ← readDigits Char.isDigit rest
    let n : Int := number 10 ds
    return (some (if minus then -n else n), rest)
  match cs with
  | 'e' :: rest => behind rest
  | 'E' :: rest => behind rest
  | _ => some (none, cs)

/-- What a number is after its sign and whole part: a float if a fraction or an exponent follows. A
positive float must be finite. -/
def readNumberTail (minus : Bool) (whole : List Char) (cs : Rest) : Option (Value × Rest) := do
  let finish (digits : List Char) (exponent : Int) (rest : Rest) : Option (Value × Rest) :=
    if !minus && isHuge digits exponent then none else some (.float digits, rest)
  match cs with
  | '.' :: rest =>
    let (fraction, rest) ← readDigits Char.isDigit rest
    let (exponent, rest) ← readExponent rest
    finish (whole ++ fraction) (exponent.getD 0 - fraction.length) rest
  | _ =>
    let (exponent, rest) ← readExponent cs
    match exponent with
    | some e => finish whole e rest
    | none =>
      let n : Int := number 10 whole
      let n := if minus then -n else n
      if fits n then some (.integer n, rest) else none

/-- A number. -/
def readNumber (cs : Rest) : Option (Value × Rest) :=
  match cs with
  | '0' :: 'x' :: rest => readBased 16 (fun c => (Pattern.hexValue? c).isSome) rest
  | '0' :: 'o' :: rest => readBased 8 (fun c => '0' ≤ c && c ≤ '7') rest
  | '0' :: 'b' :: rest => readBased 2 (fun c => c = '0' || c = '1') rest
  | _ =>
    let (minus, rest) := readSign cs
    match rest with
    | 'i' :: 'n' :: 'f' :: left => some (.float ['i', 'n', 'f'], left)
    | 'n' :: 'a' :: 'n' :: left => some (.float ['n', 'a', 'n'], left)
    | _ =>
      match readWhole rest with
      | none => none
      | some (whole, left) => readNumberTail minus whole left

/-- Exactly `n` digits with a value between two bounds. -/
def readField (n lo hi : Nat) (cs : Rest) : Option (List Char × Rest) :=
  let ds := cs.take n
  if ds.length = n && ds.all Char.isDigit && lo ≤ number 10 ds && number 10 ds ≤ hi then
    some (ds, cs.drop n)
  else none

def expect (c : Char) : Rest → Option Rest
  | d :: rest => if c = d then some rest else none
  | [] => none

def daysIn (year month : Nat) : Nat :=
  if month = 2 then
    if year % 4 = 0 && (year % 100 ≠ 0 || year % 400 = 0) then 29 else 28
  else if month = 4 || month = 6 || month = 9 || month = 11 then 30
  else 31

/-- A fraction of a second, to nine digits and without zeros at its end. -/
def readFraction (cs : Rest) : Option (List Char × Rest) :=
  match cs with
  | '.' :: rest =>
    let ds := rest.takeWhile Char.isDigit
    if ds.isEmpty then none
    else
      let kept := ((ds.take 9).reverse.dropWhile (· == '0')).reverse
      some (if kept.isEmpty then [] else '.' :: kept, rest.drop ds.length)
  | _ => some ([], cs)

/-- A time of day, from behind the colon after its hour. -/
def readTimeTail (hour : List Char) (cs : Rest) : Option (List Char × Rest) := do
  let (minute, rest) ← readField 2 0 59 cs
  let (second, rest) ← readField 2 0 60 (← expect ':' rest)
  let (fraction, rest) ← readFraction rest
  return (hour ++ ':' :: minute ++ ':' :: second ++ fraction, rest)

/-- How far a time is from universal time. -/
def readOffset (cs : Rest) : Option (List Char × Rest) := do
  let shifted (sign : Char) (rest : Rest) : Option (List Char × Rest) := do
    let (hour, rest) ← readField 2 0 23 rest
    let (minute, rest) ← readField 2 0 59 (← expect ':' rest)
    let sign := if number 10 hour + number 10 minute = 0 then '+' else sign
    return (sign :: hour ++ ':' :: minute, rest)
  match cs with
  | 'Z' :: rest => return (['Z'], rest)
  | 'z' :: rest => return (['Z'], rest)
  | '+' :: rest => shifted '+' rest
  | '-' :: rest => shifted '-' rest
  | _ => return ([], cs)

/-- Whether an hour and a colon come next. -/
def hour? (cs : Rest) : Option (List Char × Rest) := do
  let (hour, rest) ← readField 2 0 23 cs
  return (hour, ← expect ':' rest)

/-- A date or a time. The outer `none` says that none starts here, the inner one that one starts but
is wrong. -/
def readDatetime (cs : Rest) : Option (Option (Value × Rest)) :=
  match (do let (year, rest) ← readField 4 0 9999 cs; return (year, ← expect '-' rest)) with
  | some (year, rest) => some do
    let (month, rest) ← readField 2 1 12 rest
    let (day, rest) ← readField 2 1 31 (← expect '-' rest)
    if daysIn (number 10 year) (number 10 month) < number 10 day then none
    let date := year ++ '-' :: month ++ '-' :: day
    match rest with
    | c :: more =>
      match if c = 'T' || c = 't' || c = ' ' then hour? more else none with
      | some (hour, more) =>
        let (time, more) ← readTimeTail hour more
        let (offset, more) ← readOffset more
        return (.datetime (date ++ 'T' :: time ++ offset), more)
      | none => return (.datetime date, rest)
    | [] => return (.datetime date, [])
  | none =>
    match hour? cs with
    | some (hour, rest) => some ((readTimeTail hour rest).map fun (t, left) => (.datetime t, left))
    | none => none

/-- A value that is not made of other values; `fuel` exceeds the number of characters left. -/
def readScalar (fuel : Nat) (cs : Rest) : Option (Value × Rest) :=
  match cs with
  | [] => none
  | c :: _ =>
    if c = '"' || c = '\'' then (readString fuel cs).map fun (s, rest) => (.string s, rest)
    else if c = '+' || c = '-' || c.isDigit then
      match readDatetime cs with
      | some found => found
      | none => readNumber cs
    else
      match cs with
      | 't' :: 'r' :: 'u' :: 'e' :: rest => some (.boolean true, rest)
      | 'f' :: 'a' :: 'l' :: 's' :: 'e' :: rest => some (.boolean false, rest)
      | 'i' :: 'n' :: 'f' :: rest => some (.float ['i', 'n', 'f'], rest)
      | 'n' :: 'a' :: 'n' :: rest => some (.float ['n', 'a', 'n'], rest)
      | _ => none

end EditAssist.Toml
