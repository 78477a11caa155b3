import ProcInspection.FileTree

namespace ProcInspection

/-!
What an inspection reads.

A program sees a tree of files from its top and from the directory that it
works in, where a path starts that is not absolute.  The working directory may
stand nowhere in the tree, as one that was removed does; then such a path leads
nowhere.

Three reads are all that is ever done: list a directory, read a file, read
where a link points.  The first two follow a link at the end of their path, the
third does not.
-/

/-- A tree of files, and the way to the directory that is worked in. -/
structure FileSystem where
  tree : FileTree
  working : Option (List Bytes)

/-- In a tree alone no directory is worked in. -/
instance : Coe FileTree FileSystem :=
  ⟨fun tree => ⟨tree, none⟩⟩

namespace FileSystem

open FileTree (Place Arrival)

/-- The length from which on no path is taken. -/
def pathLimit : Nat := 4096

/-- The number of links that a path may lead through. -/
def linkLimit : Nat := 40

/-- What is wrong with a path before a single name is looked up. -/
def pathFault? (path : Path) : Option IoFailure :=
  if path.bytes.contains 0 then some .zeroByte
  else if path.bytes.isEmpty then some (.ofSystem .noSuchEntry)
  else if pathLimit ≤ path.bytes.length then some (.ofSystem .nameTooLong)
  else none

/-- Where a path starts. -/
def origin? (files : FileSystem) (path : Path) : Option Place :=
  if path.isAbsolute then some (.top files.tree)
  else files.working.bind fun way => (Place.top files.tree).descend? way

/-- Where a path leads. -/
def resolve (files : FileSystem) (onward : Bool) (path : Path) : Except IoFailure Arrival :=
  match pathFault? path, files.origin? path with
  | some failure, _ => .error failure
  | none, none => .error (.ofSystem .noSuchEntry)
  | none, some start => start.travel onward linkLimit path.names

/-- What stands at the end of a path. -/
def find (files : FileSystem) (onward : Bool) (path : Path) : Except IoFailure FileTree :=
  match files.resolve onward path with
  | .ok arrival => .ok arrival.place.tree
  | .error failure => .error failure

/-- The names in a directory. -/
def list (files : FileSystem) (path : Path) : Except IoFailure (List Bytes) :=
  match files.find true path with
  | .ok (.directory entries condition) =>
      if condition.listable then .ok (entries.map Prod.fst) else .error (.ofSystem .accessDenied)
  | .ok _ => .error (.ofSystem .notADirectory)
  | .error failure => .error failure

/-- How many entries of a directory a listing fails on.  They are passed over,
and what they are called is not known. -/
def lost (files : FileSystem) (path : Path) : Nat :=
  match files.find true path with
  | .ok (.directory _ condition) => condition.lost
  | _ => 0

/-- The content of a file.  A directory that cannot be read is refused before it
is seen to be no file. -/
def read (files : FileSystem) (path : Path) : Except IoFailure Bytes :=
  match files.find true path with
  | .ok (.file content closed) =>
      if closed then .error (.ofSystem .accessDenied) else .ok content
  | .ok (.directory _ condition) =>
      .error (.ofSystem (if condition.listable then .isADirectory else .accessDenied))
  | .ok (.link _ _) => .error (.ofSystem .tooManyLinks)
  | .error failure => .error failure

/-- The content of a file as text. -/
def readText (files : FileSystem) (path : Path) : Except IoFailure String :=
  match files.read path with
  | .ok content =>
      match Utf8.decode? content with
      | some text => .ok text
      | none => .error .notText
  | .error failure => .error failure

/-- Where a link points. -/
def readLink (files : FileSystem) (path : Path) : Except IoFailure Bytes :=
  match files.find false path with
  | .ok (.link target closed) =>
      if closed then .error (.ofSystem .accessDenied) else .ok target
  | .ok _ => .error (.ofSystem .invalidArgument)
  | .error failure => .error failure

end FileSystem
end ProcInspection
