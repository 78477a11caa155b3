import ProcInspection.Text.Utf8

namespace ProcInspection
namespace Blank

/-!
Blank characters and words.

Two classes are in use.  Text columns are separated by the characters with
the Unicode property `White_Space`.  Raw bytes know only the five ASCII
blanks: space, tab, line feed, form feed and carriage return; the vertical
tab is blank in text and not in bytes.
-/

/-- The characters with the Unicode property `White_Space`. -/
def isBlank (c : Char) : Bool :=
  let n := c.toNat
  (9 ≤ n && n ≤ 13) || n = 0x20 || n = 0x85 || n = 0xA0 || n = 0x1680 ||
    (0x2000 ≤ n && n ≤ 0x200A) || n = 0x2028 || n = 0x2029 || n = 0x202F ||
    n = 0x205F || n = 0x3000

def isBlankByte (byte : UInt8) : Bool :=
  byte = 0x20 || byte = 0x09 || byte = 0x0A || byte = 0x0C || byte = 0x0D

/-- The maximal runs of characters that are not blank. -/
def words (text : List Char) : List (List Char) :=
  (text.splitOnP isBlank).filter fun word => !word.isEmpty

/-- Text without the blanks at its two ends. -/
def trim (text : List Char) : List Char :=
  ((text.dropWhile isBlank).reverse.dropWhile isBlank).reverse

/-- Where the bytes that are not blank begin, or the length if there are none. -/
def trimStart (raw : Bytes) : Nat :=
  raw.findIdx fun byte => !isBlankByte byte

/-- Where they end.  A string of blanks alone ends where it begins. -/
def trimStop (raw : Bytes) : Nat :=
  match raw.reverse.findIdx? fun byte => !isBlankByte byte with
  | some fromEnd => raw.length - fromEnd
  | none => trimStart raw

/-- Bytes without the ASCII blanks at their two ends. -/
def trimBytes (raw : Bytes) : Bytes :=
  (raw.take (trimStop raw)).drop (trimStart raw)

end Blank
end ProcInspection
