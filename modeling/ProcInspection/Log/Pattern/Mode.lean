import ProcInspection.Text.Blank

namespace ProcInspection
namespace Pattern

/-!
How a pattern reads its text.

A pattern matches characters or single bytes, with or without regard to case,
and it may be spaced: then blanks and comments between its signs mean nothing.
The flags `u`, `i` and `x` set these three.

Folding the case of characters needs large tables of the character database,
which are not at hand.  What would need them is refused.
-/

structure Mode where
  unicode : Bool
  folded : Bool
  spaced : Bool
  deriving DecidableEq

namespace Mode

def standard : Mode :=
  ⟨true, false, false⟩

def set (mode : Mode) (flag : Char) (on : Bool) : Mode :=
  if flag = 'u' then { mode with unicode := on }
  else if flag = 'i' then { mode with folded := on }
  else if flag = 'x' then { mode with spaced := on }
  else mode

/-- The mode after the flags up to a colon or parenthesis, with that sign and
the text behind it.  Each flag stands at most once.  A dash turns the flags
after it off and must not be the last. -/
def flags? (mode : Mode) : (seen : List Char) -> List Char -> Option (Mode × Char × List Char)
  | _, [] => none
  | seen, c :: text =>
      if c = ':' || c = ')' then
        if seen.head? = some '-' || (c = ')' && seen.isEmpty) then none else some (mode, c, text)
      else if seen.contains c || !"-imsUuRx".toList.contains c then none
      else flags? (mode.set c (!seen.contains '-')) (c :: seen) text

/-- The text behind blanks and comments, from outside or inside a comment.  A
comment begins with a hash sign and ends with its line. -/
def behindBlanks : (comment : Bool) -> List Char -> List Char
  | _, [] => []
  | true, c :: text => behindBlanks (c ≠ '\n') text
  | false, c :: text =>
      if c = '#' then behindBlanks true text
      else if Blank.isBlank c then behindBlanks false text
      else c :: text

def skip (mode : Mode) (text : List Char) : List Char :=
  if mode.spaced then behindBlanks false text else text

/-- Can a character stand for itself?  One past ASCII that is written as a
byte is no character as long as bytes are matched. -/
def admits (mode : Mode) (c : Char) (byte : Bool) : Bool :=
  if mode.unicode then !mode.folded else !byte || c.toNat < 128

/-- Can a character be in a class?  A class of bytes is a class of ASCII. -/
def admitsMember (mode : Mode) (c : Char) : Bool :=
  if mode.unicode then !mode.folded else c.toNat < 128

/-- Can a class of ASCII, or its complement, be a member of a class? -/
def admitsNamed (mode : Mode) (negated : Bool) : Bool :=
  if mode.unicode then !mode.folded else !negated

end Mode
end Pattern
end ProcInspection
