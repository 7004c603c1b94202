import EditAssist.Unicode.Property
import EditAssist.Unicode.Script

/-! The classes of code points by which text is cut into words. The classes have no member in
common; a code point in none of them is a word by itself. -/
namespace EditAssist.Unicode.Break.Word

/-- What is added to the character before it. -/
def extend : CodeSet := .unions
  [Property.graphemeExtend, Category.spacingMark, Property.emojiModifier]

/-- Characters that are not shown and do not end a word. -/
def format : CodeSet := Category.format.diff (.unions
  [Property.prependedConcatenationMark, Property.graphemeExtend, .ofTable "200B-200D"])

def newline : CodeSet := .ofTable "B-C 85 2028-2029"

def katakana : CodeSet := (Script.membersOf "katakana").union (.ofTable
  "3031-3035 309B-309C 30A0 30FC FF70")

def hebrewLetter : CodeSet := (Script.membersOf "hebrew").inter Category.otherLetter

/-- The scripts that put no spaces between words, so that their letters tell nothing about where a
word ends. -/
def unspaced : CodeSet := .unions
  (["hiragana", "thai", "lao", "myanmar", "khmer", "taile", "newtailue", "taitham", "taiviet",
    "ahom"].map Script.membersOf)

/-- Letters that make up words, with a few signs used inside words. -/
def letter : CodeSet := CodeSet.union
  (Property.alphabetic.diff (.unions
    [Property.ideographic, katakana, hebrewLetter, unspaced, extend]))
  (.ofTable
    "2C2-2C5 2D2-2D7 2DE-2DF 2E5-2EB 2ED 2EF-2FF 55A-55C 55E 58A 5F3 70F A708-A716 A720-A721
     A789-A78A AB5B")

/-- Digits, and signs used before or inside numbers. -/
def numeric : CodeSet := Category.decimalNumber.union (.ofTable
  "600-605 66B 6DD 890-891 8E2 19DA 110BD 110CD")

/-- What may stand between letters and digits of a word. -/
def connector : CodeSet := Category.connectorPunctuation.union (.singleton 0x202F)

/-- What may stand between two letters. -/
def midLetter : CodeSet := .ofTable "3A B7 387 55F 5F4 2027 FE13 FE55 FF1A"

/-- What may stand between two digits. -/
def midNumber : CodeSet := .ofTable "2C 3B 37E 589 60C-60D 66C 7F8 2044 FE50 FE54 FF0C FF1B"

/-- What may stand between two letters or two digits. -/
def midEither : CodeSet := .ofTable "2E 2018-2019 2024 FE52 FF07 FF0E"

/-- Spaces that a line may be broken at. -/
def space : CodeSet := Category.spaceSeparator.diff (.ofTable "A0 2007 202F")

/-- The classes under their short and long names, in lower case and without separators. -/
def named : List (String × CodeSet) :=
  [("aletter", letter), ("le", letter), ("hebrewletter", hebrewLetter), ("hl", hebrewLetter),
    ("katakana", katakana), ("ka", katakana), ("numeric", numeric), ("nu", numeric),
    ("extendnumlet", connector), ("ex", connector), ("extend", extend), ("format", format),
    ("fo", format), ("midletter", midLetter), ("ml", midLetter), ("midnum", midNumber),
    ("mn", midNumber), ("midnumlet", midEither), ("mb", midEither), ("newline", newline),
    ("nl", newline), ("wsegspace", space), ("regionalindicator", Property.regionalIndicator),
    ("ri", Property.regionalIndicator), ("doublequote", .singleton 0x22), ("dq", .singleton 0x22),
    ("singlequote", .singleton 0x27), ("sq", .singleton 0x27), ("cr", .singleton 0xD),
    ("lf", .singleton 0xA), ("zwj", .singleton 0x200D)]

end EditAssist.Unicode.Break.Word
