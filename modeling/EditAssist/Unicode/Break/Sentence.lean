import EditAssist.Unicode.Property

/-! The classes of code points by which text is cut into sentences. The classes have no member in
common; a code point in none of them says nothing about where a sentence ends. -/
namespace EditAssist.Unicode.Break.Sentence

/-- What is added to the character before it. -/
def extend : CodeSet := .unions
  [Property.graphemeExtend, Category.spacingMark, .singleton 0x200D]

/-- Signs used before or inside numbers. -/
def numberSign : CodeSet := .ofTable "600-605 66B-66C 6DD 890-891 8E2 19DA 110BD 110CD"

def numeric : CodeSet := Category.decimalNumber.union numberSign

/-- Characters that are not shown. -/
def format : CodeSet := Category.format.diff (.unions
  [Property.graphemeExtend, numberSign, .ofTable "200C-200D"])

/-- Separators of paragraphs other than carriage return and line feed. -/
def separator : CodeSet := .ofTable "85 2028-2029"

def space : CodeSet := Property.whiteSpace.diff (separator.union (.ofTable "A D"))

/-- Small letters, but for those of a script that writes sentences without capitals. -/
def lower : CodeSet := Property.lowercase.diff (Property.graphemeExtend.union (.ofTable
  "10D0-10FA 10FD-10FF"))

/-- Capitals and title letters, but for those of a script that writes sentences without them. -/
def upper : CodeSet := (Property.uppercase.union Category.titlecaseLetter).diff (.ofTable
  "1C90-1CBA 1CBD-1CBF")

/-- Letters without case. -/
def letter : CodeSet := (Property.alphabetic.union (.singleton 0x5F3)).diff
  (.unions [lower, upper, extend])

/-- Full stops: they may end a sentence or stand in an abbreviation. -/
def fullStop : CodeSet := .ofTable "2E 2024 FE52 FF0E"

/-- What always ends a sentence. -/
def terminator : CodeSet := Property.sentenceTerminal.diff fullStop

/-- Commas and the like: the sentence goes on after them. -/
def continuation : CodeSet := .ofTable
  "2C-2D 3A-3B 37E 55D 60C-60D 7F8 1802 1808 2013-2014 3001 FE10-FE11 FE13-FE14 FE31-FE32
   FE50-FE51 FE54-FE55 FE58 FE63 FF0C-FF0D FF1A-FF1B FF64"

/-- Brackets and quotation marks. -/
def closing : CodeSet := .unions
  [Category.openPunctuation, Category.closePunctuation, Category.initialPunctuation,
    Category.finalPunctuation, .ofTable "22 27 275B-2760 2E00-2E01 2E06-2E08 2E0B 1F676-1F678"]

/-- The classes under their short and long names, in lower case and without separators. -/
def named : List (String × CodeSet) :=
  [("aterm", fullStop), ("at", fullStop), ("close", closing), ("cl", closing),
    ("extend", extend), ("ex", extend), ("format", format), ("fo", format),
    ("oletter", letter), ("le", letter), ("lower", lower), ("lo", lower), ("upper", upper),
    ("up", upper), ("numeric", numeric), ("nu", numeric), ("scontinue", continuation),
    ("sc", continuation), ("sep", separator), ("se", separator), ("sp", space),
    ("sterm", terminator), ("st", terminator), ("cr", .singleton 0xD), ("lf", .singleton 0xA)]

end EditAssist.Unicode.Break.Sentence
