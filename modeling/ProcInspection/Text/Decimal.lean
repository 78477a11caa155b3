import ProcInspection.Text.Utf8

namespace ProcInspection
namespace Decimal

/-!
Decimal numbers of bounded size.

A plain number is a nonempty run of ASCII digits; leading zeros are allowed
and a value past the bound is no number at all, so nothing ever wraps.  A
signed number may carry one plus sign in front.
-/

def value? (digits : List Char) : Option Nat :=
  if !digits.isEmpty && digits.all Char.isDigit then
    some (Nat.ofDigitChars 10 digits 0)
  else none

def below? (limit : Nat) (digits : List Char) : Option Nat :=
  match value? digits with
  | some value => if value < limit then some value else none
  | none => none

def word32? (digits : List Char) : Option UInt32 :=
  (below? UInt32.size digits).map UInt32.ofNat

def word64? (digits : List Char) : Option UInt64 :=
  (below? UInt64.size digits).map UInt64.ofNat

/-- Drop one leading plus sign. -/
def withoutPlus : List Char -> List Char
  | '+' :: digits => digits
  | digits => digits

def signedWord32? (text : List Char) : Option UInt32 :=
  word32? (withoutPlus text)

def signedWord64? (text : List Char) : Option UInt64 :=
  word64? (withoutPlus text)

/-- A file name that is a plain 32-bit number.  A byte outside ASCII is no
digit under any encoding, so the bytes are inspected one by one. -/
def ofName? (name : Bytes) : Option UInt32 :=
  word32? (name.map fun byte => Char.ofNat byte.toNat)

/-- The digits of a number, without leading zeros. -/
def digits (value : Nat) : List Char :=
  Nat.toDigits 10 value

def text (value : Nat) : String :=
  String.ofList (digits value)

end Decimal
end ProcInspection
