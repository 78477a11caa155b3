namespace ProcInspection
namespace Pattern

/-!
How deep a pattern nests.

Single signs have height zero.  A group, a repetition, a class and an operator
of a class are each one higher than what they hold.  Parts that stand side by
side form a row: one part alone is as high as it is, and more of them are one
higher than the tallest.
-/

/-- The number of parts in a row, and the height of the tallest. -/
structure Row where
  size : Nat
  tallest : Nat
  deriving DecidableEq

namespace Row

def empty : Row :=
  ⟨0, 0⟩

def add (row : Row) (height : Nat) : Row :=
  ⟨row.size + 1, max row.tallest height⟩

/-- One of the parts has grown to a height. -/
def raise (row : Row) (height : Nat) : Row :=
  { row with tallest := max row.tallest height }

def height (row : Row) : Nat :=
  if row.size ≤ 1 then row.tallest else row.tallest + 1

end Row

/-- A higher pattern is refused. -/
def greatestHeight : Nat := 250

end Pattern
end ProcInspection
