/-! Byte offsets in a text. Places in a text are counted in bytes of its UTF-8 encoding, while the
text itself is a list of characters; a place is a boundary when no character straddles it. -/
namespace EditAssist.Text

/-- The number of bytes of a text. -/
def bytes (t : List Char) : Nat := t.foldr (fun c n => c.utf8Size + n) 0

@[simp] theorem bytes_nil : bytes [] = 0 := rfl

@[simp] theorem bytes_cons (c : Char) (t : List Char) : bytes (c :: t) = c.utf8Size + bytes t := rfl

@[simp] theorem bytes_append (s t : List Char) : bytes (s ++ t) = bytes s + bytes t := by
  induction s with
  | nil => simp
  | cons c s ih => simp [ih, Nat.add_assoc]

/-- The text behind the first `n` bytes, if `n` is a boundary. -/
def dropBytes : Nat → List Char → Option (List Char)
  | 0, t => some t
  | _ + 1, [] => none
  | n + 1, c :: t => if c.utf8Size ≤ n + 1 then dropBytes (n + 1 - c.utf8Size) t else none

/-- The text of the first `n` bytes, if `n` is a boundary. -/
def takeBytes : Nat → List Char → Option (List Char)
  | 0, _ => some []
  | _ + 1, [] => none
  | n + 1, c :: t =>
    if c.utf8Size ≤ n + 1 then (takeBytes (n + 1 - c.utf8Size) t).map (c :: ·) else none

/-- A range of bytes, the end excluded. -/
structure Extent where
  start : Nat
  stop : Nat
  deriving DecidableEq, Repr

namespace Extent

def isEmpty (e : Extent) : Bool := e.stop ≤ e.start

def contains (e : Extent) (offset : Nat) : Bool := e.start ≤ offset && offset < e.stop

/-- The part of a text in a range, if both ends are boundaries and in order. -/
def slice? (e : Extent) (t : List Char) : Option (List Char) :=
  if e.start ≤ e.stop then (dropBytes e.start t).bind (takeBytes (e.stop - e.start)) else none

end Extent

example : (Extent.mk 1 3).slice? "aéb".toList = some ['é'] := by decide
example : (Extent.mk 2 3).slice? "aéb".toList = none := by decide

end EditAssist.Text
