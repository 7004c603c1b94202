/-! How text looks on a terminal: the sixteen colours, and a style made of two colours and two
attributes. -/
namespace EditAssist

inductive Color where
  | default
  | black
  | red
  | green
  | yellow
  | blue
  | magenta
  | cyan
  | white
  | brightBlack
  | brightRed
  | brightGreen
  | brightYellow
  | brightBlue
  | brightMagenta
  | brightCyan
  | brightWhite
  deriving DecidableEq, Repr, Inhabited

namespace Color

/-- The number of a colour in the palette; the default colour has none. -/
def code? : Color → Option Nat
  | default => none
  | black => some 0
  | red => some 1
  | green => some 2
  | yellow => some 3
  | blue => some 4
  | magenta => some 5
  | cyan => some 6
  | white => some 7
  | brightBlack => some 8
  | brightRed => some 9
  | brightGreen => some 10
  | brightYellow => some 11
  | brightBlue => some 12
  | brightMagenta => some 13
  | brightCyan => some 14
  | brightWhite => some 15

def name : Color → String
  | default => "Default"
  | black => "Black"
  | red => "Red"
  | green => "Green"
  | yellow => "Yellow"
  | blue => "Blue"
  | magenta => "Magenta"
  | cyan => "Cyan"
  | white => "White"
  | brightBlack => "BrightBlack"
  | brightRed => "BrightRed"
  | brightGreen => "BrightGreen"
  | brightYellow => "BrightYellow"
  | brightBlue => "BrightBlue"
  | brightMagenta => "BrightMagenta"
  | brightCyan => "BrightCyan"
  | brightWhite => "BrightWhite"

end Color

structure Style where
  fg : Color := .default
  bg : Color := .default
  bold : Bool := false
  italic : Bool := false
  deriving DecidableEq, Repr, Inhabited

/-- Whether the style leaves text as it is. -/
def Style.isPlain (s : Style) : Bool := s = {}

end EditAssist
