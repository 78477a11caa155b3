namespace ProcInspection
namespace Column

/-!
Table columns.  A cell is padded with spaces to its column's width, counted
in characters; a longer cell is kept whole and pushes the rest of its row.
-/

def left (width : Nat) (cell : List Char) : List Char :=
  cell ++ List.replicate (width - cell.length) ' '

def right (width : Nat) (cell : List Char) : List Char :=
  List.replicate (width - cell.length) ' ' ++ cell

end Column
end ProcInspection
