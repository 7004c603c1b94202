import EditAssist.Unicode.Property

/-! How many columns of a terminal a single character takes: none for marks and other characters
that are not shown, two for the characters of East Asian scripts and for emoji, and one for most
others. Terminals follow an older edition of the character database than the tables of the
properties do, so what is newer than that edition takes one column. -/
namespace EditAssist.Text
open Unicode

/-- Characters that are shown as emoji unless a sign behind them says otherwise. The letters that
flags are spelled with are not among them. -/
def emojiShown : CodeSet := Property.emojiPresentation.diff (.ofTable
  "1F1E6-1F1FF 1FA89 1FA8F 1FABE 1FAC6 1FADC 1FADF 1FAE9")

/-- Characters of two columns that are no emoji. -/
def wide : CodeSet := .ofTable
  "1100-115F 17A4 2329-232A 2E80-2E99 2E9B-2EF3 2F00-2FD5 2FF0-3029 3030-303E 3041-3096
   309B-30FF 3105-312F 3131-3163 3165-318E 3190-31E3 31EF-321E 3220-3247 3250-4DBF 4E00-A48C
   A490-A4C6 A960-A97C AC00-D7A3 F900-FAFF FE10-FE19 FE30-FE52 FE54-FE66 FE68-FE6B FF01-FF60
   FFE0-FFE6 16FE0-16FE3 16FF0-16FF1 17000-187F7 18800-18CD5 18D00-18D08 1AFF0-1AFF3
   1AFF5-1AFFB 1AFFD-1AFFE 1B000-1B122 1B132 1B150-1B152 1B155 1B164-1B167 1B170-1B2FB 1F200
   1F202 1F210-1F219 1F21B-1F22E 1F230-1F231 1F237 1F23B 1F240-1F248 1F260-1F265 20000-2FFFD
   30000-3FFFD"

/-- Characters that take no column: what is not shown, what extends the character before it, the
vowels and finals of Korean syllables, and signs that are drawn over what follows. -/
def unseen : CodeSet := CodeSet.diff
  (.unions [Property.defaultIgnorable, Property.graphemeExtend, .ofTable
    "605 70F 890-891 8E2 D4E 1161-11FF A8FA D7B0-D7C6 D7CB-D7FB 111C2-111C3 1171E 1193F 11941
     11A3A 11A84-11A89 11D46 11F02"])
  (.ofTable
    "897 115F 1715 1734 1B44 1BAA 1BF2-1BF3 2D7F A953 A9C0 10D69-10D6D 10EFC 111C0 11235 1134D
     113B8 113BB-113C0 113C2 113C5 113C7-113C9 113CE-113D0 113D2 113E1-113E2 116B6 1193D 11F41
     11F5A 1611E-16129 1612D-1612F 16FF0-16FF1 1D166 1D16D 1E5EE-1E5EF")

/-- The columns of a single character. -/
def charWidth (c : Char) : Nat :=
  let n := c.toNat
  if n ≤ 0xA0 then 1
  else if n = 0x17D8 then 3
  else if unseen.contains n then 0
  else if wide.contains n || emojiShown.contains n then 2
  else 1

end EditAssist.Text
