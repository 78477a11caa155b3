namespace ProcInspection
namespace Hex

/-!
Hexadecimal digits: read in either case, written in upper case at a fixed
width.
-/

def digit? (c : Char) : Option Nat :=
  let n := c.toNat
  if 48 ≤ n && n ≤ 57 then some (n - 48)
  else if 65 ≤ n && n ≤ 70 then some (n - 55)
  else if 97 ≤ n && n ≤ 102 then some (n - 87)
  else none

/-- The value of a run of digits, most significant first, onto a value read
before. -/
def valueFrom? (before : Nat) : List Char -> Option Nat
  | [] => some before
  | c :: rest =>
      match digit? c with
      | some d => valueFrom? (before * 16 + d) rest
      | none => none

/-- The value of a run of `least` to `most` digits. -/
def value? (least most : Nat) (digits : List Char) : Option Nat :=
  if least ≤ digits.length && digits.length ≤ most then valueFrom? 0 digits else none

def upperDigit (value : Nat) : Char :=
  if value < 10 then Char.ofNat (48 + value) else Char.ofNat (55 + value)

/-- The last `width` digits of a number, most significant first. -/
def upper : (width : Nat) -> (value : Nat) -> List Char
  | 0, _ => []
  | width + 1, value => upper width (value / 16) ++ [upperDigit (value % 16)]

end Hex
end ProcInspection
