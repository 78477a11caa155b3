import ProcInspection.Log.Pattern.Mode
import ProcInspection.Text.Hex

namespace ProcInspection
namespace Pattern

/-!
What a backslash introduces: a character by its number or by a letter, a sign
that stands for itself, a ready-made class, or an assertion.

The ready-made classes of characters and the bounds of words are defined by
large tables, so both need bytes.  The complement of a ready-made class holds
bytes that are no character, and is refused everywhere.
-/

inductive Escape where
  | literal (c : Char) (byte : Bool)
  | shorthand
  | assertion
  deriving DecidableEq

namespace Escape

/-- The value of so many hexadecimal digits behind a value read before.  Blanks
may stand in front of each. -/
def number? (mode : Mode) : (width before : Nat) -> List Char -> Option (Nat × List Char)
  | 0, before, text => some (before, text)
  | width + 1, before, text =>
      match mode.skip text with
      | c :: rest =>
          match Hex.digit? c with
          | some digit => number? mode width (before * 16 + digit) rest
          | none => none
      | [] => none

/-- The character whose number is written in so many digits. -/
def numbered? (mode : Mode) (width : Nat) (text : List Char) : Option (Escape × List Char) :=
  match number? mode width 0 text with
  | some (value, rest) =>
      if value.isValidChar then some (.literal (Char.ofNat value) (width = 2), rest) else none
  | none => none

/-- The control characters that have a letter. -/
def control? (c : Char) : Option Char :=
  match c with
  | 'a' => some '\x07'
  | 't' => some '\t'
  | 'n' => some '\n'
  | 'v' => some '\x0b'
  | 'f' => some '\x0c'
  | 'r' => some '\r'
  | _ => none

/-- What a sign that takes no digits stands for. -/
def sign? (mode : Mode) (c : Char) : Option Escape :=
  if "dsw".toList.contains c then if mode.unicode then none else some .shorthand
  else if "bB<>".toList.contains c then if mode.unicode then none else some .assertion
  else if "Az".toList.contains c then some .assertion
  else if c.toNat < 128 && !c.isAlphanum then some (.literal c false)
  else (control? c).map fun control => .literal control false

def read? (mode : Mode) : List Char -> Option (Escape × List Char)
  | [] => none
  | 'x' :: text => numbered? mode 2 text
  | 'u' :: text => numbered? mode 4 text
  | 'U' :: text => numbered? mode 8 text
  | c :: text => (sign? mode c).map fun found => (found, text)

end Escape
end Pattern
end ProcInspection
