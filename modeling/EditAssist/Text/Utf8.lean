/-! Decoding bytes as UTF-8, either strictly or with a replacement character for each longest start
of a character that goes wrong. -/
namespace EditAssist.Text

/-- Read the `n` further bytes of a character. The next one lies between `lo` and `hi`, the others
between 80 and BF; `code` is what has been read. Gives nothing for the character if a byte does not
fit, which is then left to be read again. -/
def continueChar : (n lo hi code : Nat) → List UInt8 → Option Char × List UInt8
  | 0, _, _, code, bs => (some (Char.ofNat code), bs)
  | _ + 1, _, _, _, [] => (none, [])
  | n + 1, lo, hi, code, b :: bs =>
    if lo ≤ b.toNat ∧ b.toNat ≤ hi then continueChar n 0x80 0xBF (64 * code + b.toNat % 64) bs
    else (none, b :: bs)

/-- The character that a first byte starts, with the bytes after it. -/
def decodeChar (b : UInt8) (bs : List UInt8) : Option Char × List UInt8 :=
  let n := b.toNat
  if n < 0x80 then (some (Char.ofNat n), bs)
  else if n < 0xC2 then (none, bs)
  else if n < 0xE0 then continueChar 1 0x80 0xBF (n % 32) bs
  else if n = 0xE0 then continueChar 2 0xA0 0xBF 0 bs
  else if n = 0xED then continueChar 2 0x80 0x9F 13 bs
  else if n < 0xF0 then continueChar 2 0x80 0xBF (n % 16) bs
  else if n = 0xF0 then continueChar 3 0x90 0xBF 0 bs
  else if n < 0xF4 then continueChar 3 0x80 0xBF (n % 8) bs
  else if n = 0xF4 then continueChar 3 0x80 0x8F 4 bs
  else (none, bs)

theorem continueChar_length (n lo hi code : Nat) (bs : List UInt8) :
    (continueChar n lo hi code bs).2.length ≤ bs.length := by
  induction n generalizing lo hi code bs with
  | zero => simp [continueChar]
  | succ n ih =>
    cases bs with
    | nil => simp [continueChar]
    | cons b bs =>
      rw [continueChar]
      split
      · exact Nat.le_succ_of_le (ih _ _ _ bs)
      · simp

theorem decodeChar_length (b : UInt8) (bs : List UInt8) :
    (decodeChar b bs).2.length ≤ bs.length := by
  rw [decodeChar]
  repeat' split
  all_goals first | exact Nat.le_refl _ | exact continueChar_length ..

/-- The characters of a text in UTF-8; `none` stands for bytes that are no character. -/
def decodeAll (bs : List UInt8) : List (Option Char) :=
  match bs with
  | [] => []
  | b :: rest => (decodeChar b rest).1 :: decodeAll (decodeChar b rest).2
termination_by bs.length
decreasing_by exact Nat.lt_succ_of_le (decodeChar_length b rest)

/-- The text that the bytes encode, if they encode one. -/
def decode? (bs : List UInt8) : Option (List Char) := (decodeAll bs).mapM id

/-- The text that the bytes encode, with U+FFFD for what encodes nothing. -/
def decodeLossy (bs : List UInt8) : List Char := (decodeAll bs).map (·.getD '\ufffd')

example : decode? [0x61, 0xC3, 0xA9] = some ['a', 'é'] := by cbv
example : decodeLossy [0xE2, 0x82, 0x41] = ['\ufffd', 'A'] := by cbv

end EditAssist.Text
