import ProcInspection.IoFailure
import ProcInspection.Path

namespace ProcInspection

/-!
Trees of files, and walks through them.

A tree is a file, a symbolic link or a directory of named trees.  Files and
links may be closed to the reader.  A directory may refuse to have its names
listed, or to have one of them looked up.

A walk goes from place to place, name by name.  A dot stays where it is and two
dots lead back to the directory above, which the top is to itself; but every
step, also one of these, starts in a directory that can be searched.  A link
that stands in the way is followed: its own names are walked before the names
that are left, from the top or from the directory that holds it.  There is a
limit to the number of links that one walk follows, so every walk ends.
-/

/-- How a directory stands to its reader: whether its names are listed, whether
a name is looked up, and how many further entries a listing fails on. -/
structure Condition where
  listable : Bool
  searchable : Bool
  lost : Nat
  deriving DecidableEq

namespace Condition

def free : Condition :=
  ⟨true, true, 0⟩

def closed : Condition :=
  ⟨false, false, 0⟩

end Condition

inductive FileTree where
  | file (content : Bytes) (closed : Bool)
  | link (target : Bytes) (closed : Bool)
  | directory (entries : List (Bytes × FileTree)) (condition : Condition)

namespace FileTree

def emptyDirectory : FileTree :=
  .directory [] .free

/-- A tree inside another one: the tree, and the way to it.  The way holds each
name that was passed with the directory that it was found in, the last first. -/
structure Place where
  tree : FileTree
  way : List (Bytes × FileTree)

namespace Place

def top (tree : FileTree) : Place :=
  ⟨tree, []⟩

/-- The directory above, or the top again. -/
def parent (place : Place) : Place :=
  match place.way with
  | (_, above) :: way => ⟨above, way⟩
  | [] => place

/-- The top of the tree that a place is in. -/
def summit (place : Place) : Place :=
  match place.way.getLast? with
  | some (_, above) => top above
  | none => place

/-- The names from the top, without any dots. -/
def names (place : Place) : List Bytes :=
  (place.way.map Prod.fst).reverse

/-- The longest name that a directory can hold. -/
def longestName : Nat := 255

/-- The place that a name leads to.  No name leads on from a link: it has to be
followed first. -/
def step (place : Place) (name : Bytes) : Except IoFailure Place :=
  match place.tree with
  | .directory entries condition =>
      if condition.searchable then
        if name = Path.dot then .ok place
        else if name = Path.dotDot then .ok place.parent
        else if longestName < name.length then .error (.ofSystem .nameTooLong)
        else
          match entries.lookup name with
          | some child => .ok ⟨child, (name, place.tree) :: place.way⟩
          | none => .error (.ofSystem .noSuchEntry)
      else .error (.ofSystem .accessDenied)
  | .file _ _ => .error (.ofSystem .notADirectory)
  | .link _ _ => .error (.ofSystem .tooManyLinks)

def isLink (place : Place) : Bool :=
  match place.tree with
  | .link _ _ => true
  | _ => false

/-- Walk along names up to the first link that has to be followed: the place
that was come to, and the names that are left there. -/
def advance : List Bytes -> Place -> Except IoFailure (Place × List Bytes)
  | [], place => .ok (place, [])
  | name :: names, place =>
      if place.isLink then .ok (place, name :: names)
      else
        match place.step name with
        | .ok next => advance names next
        | .error failure => .error failure

/-- Where the target of a link starts. -/
def aim (place : Place) (target : Path) : Place :=
  if target.isAbsolute then place.summit else place.parent

end Place

/-- Where a walk has come to, and how many more links it may follow. -/
structure Arrival where
  place : Place
  links : Nat

/-- Walk along names and follow the links in the way.  A link that the names end
at is followed if the walk goes onward. -/
def Place.travel (onward : Bool) (links : Nat) (names : List Bytes) (place : Place) :
    Except IoFailure Arrival :=
  match place.advance names with
  | .error failure => .error failure
  | .ok (reached, rest) =>
      match reached.tree with
      | .link target closed =>
          if rest.isEmpty && !onward then .ok ⟨reached, links⟩
          else
            match links with
            | 0 => .error (.ofSystem .tooManyLinks)
            | left + 1 =>
                if closed then .error (.ofSystem .accessDenied)
                else travel onward left ((Path.mk target).names ++ rest) (reached.aim ⟨target⟩)
      | _ => .ok ⟨reached, links⟩

/-- The place at the end of a way, whether it can be walked to or not. -/
def Place.descend? : List Bytes -> Place -> Option Place
  | [], place => some place
  | name :: way, place =>
      match place.tree with
      | .directory entries _ =>
          (entries.lookup name).bind fun child =>
            descend? way ⟨child, (name, place.tree) :: place.way⟩
      | _ => none

end FileTree
end ProcInspection
