import EditAssist.Unicode.Property

/-! The classes of code points by which text is cut into user-perceived characters. The classes have
no member in common; a code point in none of them always stands alone. -/
namespace EditAssist.Unicode.Break.Grapheme

/-- What is added to the character before it. -/
def extend : CodeSet := Property.graphemeExtend.union Property.emojiModifier

/-- What is joined to the character after it. -/
def prepend : CodeSet := Property.prependedConcatenationMark.union (.ofTable
  "D4E 111C2-111C3 113D1 1193F 11941 11A3A 11A84-11A89 11D46 11F02")

/-- Line breaks and characters that are not shown, but for those that belong to their neighbours. -/
def control : CodeSet := CodeSet.diff
  (.unions [Category.lineSeparator, Category.paragraphSeparator, Category.control, Category.format,
    Category.unassigned.inter Property.defaultIgnorable])
  (.unions [Property.graphemeExtend, Property.prependedConcatenationMark, .ofTable "A D 200C-200D"])

/-- Marks that take room of their own. -/
def spacingMark : CodeSet := CodeSet.diff (Category.spacingMark.union (.ofTable "E33 EB3"))
  (Property.graphemeExtend.union (.ofTable
    "102B-102C 1038 1062-1064 1067-106D 1083 1087-108C 108F 109A-109C 1A61 1A63-1A64 AA7B AA7D
     11720-11721"))

/-- Leading consonants of Korean syllables. -/
def leading : CodeSet := .ofTable "1100-115F A960-A97C"

/-- Vowels of Korean syllables, and signs that behave like them. -/
def vowel : CodeSet := .ofTable "1160-11A7 D7B0-D7C6 16D63 16D67-16D6A"

/-- Final consonants of Korean syllables. -/
def trailing : CodeSet := .ofTable "11A8-11FF D7CB-D7FB"

/-- Korean syllables without a final consonant; the 27 code points after each of them are the same
syllable with one. -/
def openSyllable : CodeSet :=
  .ofRanges ((List.range 399).map fun k => (0xAC00 + 28 * k, 0xAC00 + 28 * k))

def closedSyllable : CodeSet := (CodeSet.range 0xAC00 0xD7A3).diff openSyllable

/-- The classes under their short and long names, in lower case and without separators. -/
def named : List (String × CodeSet) :=
  [("control", control), ("cn", control), ("extend", extend), ("ex", extend),
    ("prepend", prepend), ("pp", prepend), ("spacingmark", spacingMark), ("sm", spacingMark),
    ("regionalindicator", Property.regionalIndicator), ("ri", Property.regionalIndicator),
    ("l", leading), ("v", vowel), ("t", trailing), ("lv", openSyllable), ("lvt", closedSyllable),
    ("cr", .singleton 0xD), ("lf", .singleton 0xA), ("zwj", .singleton 0x200D)]

end EditAssist.Unicode.Break.Grapheme
