import EditAssist.Unicode.Property

/-! The character classes that the lexical rules ask for: letters, digits of any script, capital
letters and blanks. Each answers for ASCII at once and looks up a table for the rest. The lexical
rules know a later edition of the character database than the classes of patterns do, so they add
the characters that the later edition brought. -/
namespace EditAssist.Unicode

/-- The letters of the later edition. -/
def laterAlphabetic : CodeSet := .ofTable
  "88F C5C CDC A7CE-A7CF A7D2 A7D4 A7F1 10940-10959 10EC5-10EC7 10EFA-10EFB 11B60-11B67
   11DB0-11DDB 16EA0-16EB8 16EBB-16ED3 16FF2-16FF6 187F8-187FF 18D09-18D1E 18D80-18DF2
   1E6C0-1E6DE 1E6E0-1E6F5 1E6FE-1E6FF 2B73A-2B73F 2CEA2-2CEAD 323B0-33479"

/-- The number characters of the later edition. -/
def laterNumber : CodeSet := .ofTable "11DE0-11DE9 16FF4-16FF6"

/-- The capital letters of the later edition. -/
def laterUppercase : CodeSet := .ofTable "A7CE A7D2 A7D4 16EA0-16EB8"

def lexicalAlphabetic : CodeSet := Property.alphabetic.union laterAlphabetic

def lexicalNumber : CodeSet := Category.number.union laterNumber

def lexicalUppercase : CodeSet := Property.uppercase.union laterUppercase

/-- A letter of any script. -/
def isAlphabetic (c : Char) : Bool :=
  if c.toNat < 0x80 then c.isAlpha else lexicalAlphabetic.contains c.toNat

/-- A digit or other number character of any script. -/
def isNumeric (c : Char) : Bool :=
  if c.toNat < 0x80 then c.isDigit else lexicalNumber.contains c.toNat

def isAlphanumeric (c : Char) : Bool := isAlphabetic c || isNumeric c

/-- A capital letter of any script. -/
def isUppercase (c : Char) : Bool :=
  if c.toNat < 0x80 then c.isUpper else lexicalUppercase.contains c.toNat

/-- White space of any script, line breaks included. -/
def isBlank (c : Char) : Bool :=
  let n := c.toNat
  (9 ≤ n && n ≤ 13) || n == 0x20 || n == 0x85 || n == 0xA0 || n == 0x1680 ||
    (0x2000 ≤ n && n ≤ 0x200A) || n == 0x2028 || n == 0x2029 || n == 0x202F || n == 0x205F ||
    n == 0x3000

end EditAssist.Unicode
