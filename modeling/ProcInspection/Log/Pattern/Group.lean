import ProcInspection.Log.Pattern.Height
import ProcInspection.Log.Pattern.Mode
import ProcInspection.Text.Alphanumeric

namespace ProcInspection
namespace Pattern

/-!
Groups in parentheses.

A group may have a name, or flags that set its mode.  Parentheses that hold
flags alone are no group: they set the mode up to the end of the group around
them.
-/

/-- What a parenthesis opens. -/
inductive Opening where
  | plain
  | named (name : List Char)
  | flagged (mode : Mode)
  | flags (mode : Mode)
  deriving DecidableEq

namespace Opening

def isNamePart (c : Char) : Bool :=
  "_.[]".toList.contains c || Alphanumeric.isAlphanumeric c

def isName : List Char -> Bool
  | [] => false
  | c :: name => (c = '_' || Alphanumeric.isAlphabetic c) && name.all isNamePart

/-- A group with a name, which ends at the next angle bracket. -/
def named? (text : List Char) : Option (Opening × List Char) :=
  let name := text.takeWhile fun c => c ≠ '>'
  match text.dropWhile fun c => c ≠ '>' with
  | _ :: after => if isName name then some (.named name, after) else none
  | [] => none

/-- What the parenthesis in front of a text opens, and the text behind that. -/
def read? (mode : Mode) (text : List Char) : Option (Opening × List Char) :=
  match mode.skip text with
  | '?' :: 'P' :: '<' :: rest | '?' :: '<' :: rest => named? rest
  | '?' :: rest =>
      match mode.flags? [] rest with
      | some (inner, ':', after) => some (.flagged inner, after)
      | some (inner, _, after) => some (.flags inner, after)
      | none => none
  | rest => some (.plain, rest)

end Opening

/-- A group that is still open: the mode in force, the alternatives that are
complete, the items of the last one, and the height of the last item if there
is one and it can be repeated. -/
structure Group where
  mode : Mode
  alternatives : Row
  items : Row
  last : Option Nat
  deriving DecidableEq

namespace Group

def opened (mode : Mode) : Group :=
  ⟨mode, .empty, .empty, none⟩

def add (group : Group) (height : Nat) : Group :=
  { group with items := group.items.add height, last := some height }

/-- Flags are an item that cannot be repeated. -/
def set (group : Group) (mode : Mode) : Group :=
  { group with mode := mode, items := group.items.add 0, last := none }

def alternative (group : Group) : Group :=
  { group with
    alternatives := group.alternatives.add group.items.height, items := .empty, last := none }

def repeated? (group : Group) : Option Group :=
  group.last.map fun height =>
    { group with items := group.items.raise (height + 1), last := some (height + 1) }

/-- The height of all alternatives together. -/
def height (group : Group) : Nat :=
  group.alternative.alternatives.height

end Group
end Pattern
end ProcInspection
