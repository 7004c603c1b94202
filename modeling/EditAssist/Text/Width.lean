import EditAssist.Text.CharWidth

/-! How many columns of a terminal a text takes. Some sequences take less room than their characters
would take one by one: emoji that are joined or modified, flags, and ligatures of several scripts.
The width is found from the right, so that each character knows what it is followed by. -/
namespace EditAssist.Text
open Unicode

/-- The last characters of ligatures, as far as they have been read from the right; `joined` says
whether a joiner stands before them. -/
inductive Ligature where
  | alef
  | lamed (joined : Bool)
  | ya (joined : Bool)
  /-- A vowel sign, a joiner and a ya. -/
  | vowelYa
  | consonant (joined : Bool)
  /-- A sign that joins consonants, and a consonant. -/
  | linkedConsonant
  | toneLetter
  | orkhonI (joined : Bool)
  /-- A letter that can be written under the letter before it. -/
  | subjoinable
  deriving DecidableEq, Repr

/-- What the characters behind a place form, as far as the character before them asks for it. -/
inductive Behind where
  | plain
  | newline
  /-- The sign that shows the character before it as an emoji. -/
  | showEmoji
  /-- The sign that shows the character before it as text. -/
  | showText
  | emoji
  | tone
  /-- One letter of a flag. -/
  | flagLetter
  /-- Two or more letters of flags. -/
  | flagLetters
  /-- A joiner and then an emoji; before the joiner there may be the sign of a key, and before that
  the sign that shows a character as an emoji. -/
  | joinedEmoji (key shown : Bool)
  /-- Letters of flags before a joiner and an emoji: one letter, or an even or odd number of them. -/
  | joinedFlagLetter
  | joinedFlags (even : Bool)
  /-- The letters that end the tag of a flag, read from the right, before a joiner and an emoji. -/
  | tagLetters (count : Nat)
  /-- The digits that stand before them. -/
  | tagDigits (count : Nat)
  /-- A ligature, and whether a sign before it asks for an emoji or for text. -/
  | ligature (part : Ligature) (asEmoji asText : Bool)
  deriving DecidableEq, Repr

namespace Behind

/-- Whether the next character is to be shown as an emoji. -/
def asksEmoji : Behind → Bool
  | showEmoji | joinedEmoji _ true | ligature _ true _ => true
  | _ => false

/-- Whether the next character is to be shown as text. -/
def asksText : Behind → Bool
  | showText | ligature _ _ true => true
  | _ => false

/-- What is left when the next character cannot be shown as an emoji. -/
def withoutEmoji : Behind → Behind
  | ligature part true asText => ligature part false asText
  | b => if b.asksEmoji then plain else b

/-- What is left when the next character cannot be shown as text. -/
def withoutText : Behind → Behind
  | showText => plain
  | ligature part asEmoji _ => ligature part asEmoji false
  | b => b

/-- The sign that asks for an emoji, before what is behind it. -/
def addEmojiSign : Behind → Behind
  | joinedEmoji key _ => joinedEmoji key true
  | ligature part _ asText => ligature part true asText
  | _ => showEmoji

/-- The sign that asks for text, before what is behind it. -/
def addTextSign : Behind → Behind
  | ligature part asEmoji _ => ligature part asEmoji true
  | _ => showText

end Behind

/-- Emoji that can also be shown as text of one column. -/
def textable : CodeSet := .ofTable
  "231A-231B 23E9-23EC 23F0 23F3 25FD-25FE 2614-2615 2648-2653 267F 2693 26A1 26AA-26AB
   26BD-26BE 26C4-26C5 26CE 26D4 26EA 26F2-26F3 26F5 26FA 26FD 2705 270A-270B 2728 274C 274E
   2753-2755 2757 2795-2797 27B0 27BF 2B1B-2B1C 2B50 2B55 1F004 1F30D-1F30F 1F315 1F31C 1F378
   1F393 1F3A7 1F3AC-1F3AE 1F3C2-1F3C6/2 1F3CA 1F3E0 1F3ED 1F408 1F415 1F41F 1F426 1F442
   1F446-1F449 1F44D-1F44E 1F453 1F46A 1F47D 1F4A3 1F4B0 1F4B3 1F4BB 1F4BF 1F4CB 1F4DA 1F4DF
   1F4E4-1F4E6 1F4EA-1F4ED 1F4F7 1F4F9-1F4FB 1F508 1F50D 1F512-1F513 1F550-1F567 1F610 1F687
   1F68D 1F691 1F694 1F698 1F6AD 1F6B2 1F6B9-1F6BA 1F6BC"

/-- Characters that a sign behind them shows as emoji: those that are text without it, and those
that can be both. -/
def emojiable : CodeSet := .unions
  [Property.emoji.diff Property.emojiPresentation, textable, .ofTable "1F21A 1F22F"]

def alef : CodeSet := .ofTable "622-623 625 627 671-673 675 773-774 870-882"

def lam : CodeSet := .ofTable "644 6B5-6B8 76A 8A6 8C7"

def consonant : CodeSet := .ofTable "2D31-2D65 2D6F"

def subjoinable : CodeSet := .ofTable
  "1780-1782 1784-1787 1789-178C 178E-1793 1795-1798 179B-179D 17A0 17A2 17A7 17AB-17AC 17AF"

/-- Unseen characters that do not part a lam from an alef. -/
def passed : CodeSet := CodeSet.diff
  (unseen.inter (.unions [Category.nonspacingMark, Category.enclosingMark, Category.format,
    .ofTable "1171E"]))
  (.ofTable "605 890-891 8E2 180E 200C-200D 2066-2069")

/-- Marks that are not shown. They do not part the characters of other ligatures. -/
def hiddenMark : CodeSet := Property.defaultIgnorable.inter Category.mark

def isFlagLetter (n : Nat) : Bool := 0x1F1E6 ≤ n && n ≤ 0x1F1FF

def isTone (n : Nat) : Bool := 0x1F3FB ≤ n && n ≤ 0x1F3FF

def isTagLetter (n : Nat) : Bool := 0xE0061 ≤ n && n ≤ 0xE007A

def isTagDigit (n : Nat) : Bool := 0xE0030 ≤ n && n ≤ 0xE0039

/-- What a character is to the character before it, if nothing special follows it. -/
def behindOf (n : Nat) : Behind :=
  if n = 0xFE0F then .showEmoji
  else if n = 0xFE0E then .showText
  else if isTone n then .tone
  else if isFlagLetter n then .flagLetter
  else if alef.contains n then .ligature .alef false false
  else if n = 0x5DC then .ligature (.lamed false) false false
  else if n = 0x1A10 then .ligature (.ya false) false false
  else if consonant.contains n then .ligature (.consonant false) false false
  else if n = 0xA4FC || n = 0xA4FD then .ligature .toneLetter false false
  else if n = 0x10C03 then .ligature (.orkhonI false) false false
  else if subjoinable.contains n then .ligature .subjoinable false false
  else if emojiShown.contains n then .emoji
  else .plain

/-- The columns that a character adds and what it is, if it forms nothing with what is behind it. -/
def alone (n : Nat) (c : Char) : Int × Behind := (charWidth c, behindOf n)

/-- A joiner before the last characters of a ligature. -/
def Ligature.join : Ligature → Ligature
  | lamed _ => lamed true
  | ya _ => ya true
  | consonant _ => consonant true
  | orkhonI _ => orkhonI true
  | part => part

/-- The columns that a character adds before the last characters of a ligature, and what it forms
with them, if it forms anything. -/
def ligatureStep? (n : Nat) (part : Ligature) : Option (Int × Behind) :=
  if part != .alef && n = 0x200D then some (0, .ligature part.join false false)
  else if part != .alef && hiddenMark.contains n then some (0, .ligature part false false)
  else
    match part with
    | .alef =>
      if lam.contains n then some (0, .plain)
      else if passed.contains n then some (0, .ligature .alef false false)
      else none
    | .lamed joined => if joined && n = 0x5D0 then some (0, .plain) else none
    | .ya joined =>
      if joined && n = 0x1A17 then some (0, .ligature .vowelYa false false) else none
    | .vowelYa => if n = 0x1A15 then some (0, .plain) else none
    | .consonant joined =>
      if n = 0x2D7F then some (1, .ligature .linkedConsonant false false)
      else if joined && consonant.contains n then some (0, .plain)
      else none
    | .linkedConsonant => if consonant.contains n then some (-1, .plain) else none
    | .toneLetter => if 0xA4F8 ≤ n && n ≤ 0xA4FB then some (0, .plain) else none
    | .orkhonI joined => if joined && n = 0x10C32 then some (0, .plain) else none
    | .subjoinable => if n = 0x17D2 then some (-1, .plain) else none

/-- The columns that a character adds before emoji, flags and tags, and what it forms with them, if
it forms anything. -/
def emojiStep? (n : Nat) (behind : Behind) : Option (Int × Behind) :=
  match behind with
  | .tone =>
    if Property.emojiModifierBase.contains n then some (0, .emoji)
    else if n = 0x200D then some (0, .joinedEmoji false false)
    else none
  | .emoji => if n = 0x200D then some (0, .joinedEmoji false false) else none
  | .flagLetter => if isFlagLetter n then some (1, .flagLetters) else none
  | .flagLetters =>
    if isFlagLetter n then some (1, .flagLetters)
    else if n = 0x200D then some (0, .joinedEmoji false false)
    else none
  | .joinedEmoji false false =>
    if n = 0x20E3 then some (0, .joinedEmoji true false)
    else if isFlagLetter n then some (1, .joinedFlagLetter)
    else if isTone n then some (0, .tone)
    else if n = 0xE007F then some (0, .tagLetters 0)
    else if emojiShown.contains n then some (0, .emoji)
    else none
  | .joinedFlagLetter => if isFlagLetter n then some (-1, .joinedFlags true) else none
  | .joinedFlags even =>
    if isFlagLetter n then some (if even then 3 else -1, .joinedFlags (!even))
    else if n = 0x200D then some (0, .joinedEmoji false false)
    else none
  | .tagLetters k =>
    if isTagLetter n && k < 6 then some (0, .tagLetters (k + 1))
    else if isTagDigit n && k < 5 then some (0, .tagDigits 1)
    else if n = 0x1F3F4 && 3 ≤ k then some (0, .emoji)
    else none
  | .tagDigits k =>
    if isTagDigit n && k < 3 then some (0, .tagDigits (k + 1))
    else if n = 0x1F3F4 && k = 3 then some (0, .emoji)
    else none
  | _ => none

/-- What a character forms with what is behind it. -/
def formed? (n : Nat) : Behind → Option (Int × Behind)
  | .ligature part _ _ => ligatureStep? n part
  | behind => emojiStep? n behind

/-- The columns that a character adds before what is behind it, and what it forms with that. -/
def widthStep (c : Char) (behind : Behind) : Int × Behind :=
  let n := c.toNat
  if behind.asksEmoji && emojiable.contains n then
    (if behind matches .joinedEmoji _ _ then 0 else 2, .emoji)
  else
    let behind := behind.withoutEmoji
    if n = 0xA then (0, .newline)
    else if n ≤ 0xA0 then (if n = 0xD && behind = .newline then 0 else 1, .plain)
    else if n = 0xFE0F then (0, behind.addEmojiSign)
    else if n = 0xFE0E then (0, behind.addTextSign)
    else if behind.asksText && textable.contains n then (1, .plain)
    else (formed? n behind.withoutText).getD (alone n c)

/-- The columns of a text. -/
def width (t : List Char) : Nat :=
  (t.foldr (fun c (w, behind) =>
    let (d, behind) := widthStep c behind
    (w + d, behind)) ((0, .plain) : Int × Behind)).1.toNat

end EditAssist.Text
