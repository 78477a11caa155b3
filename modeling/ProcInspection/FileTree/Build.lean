import ProcInspection.FileSystem

namespace ProcInspection
namespace FileTree

/-!
Building a tree step by step.

A step either yields the changed tree or is refused: a parent is missing or
closed, a name is taken or too long, something stands where a directory is
needed.  The entries of a directory keep distinct names, because a step
replaces the entry of its name or adds one at the end.

Changes are made along ways, which are lists of plain names from the top.  A
path may hold dots; they are resolved against the tree before the change.  A
path that leads through a link is refused: changes are made where their names
say.
-/

abbrev Entries := List (Bytes × FileTree)

/-- Replace the entry of a name, or add it at the end. -/
def put (name : Bytes) (tree : FileTree) : Entries -> Entries
  | [] => [(name, tree)]
  | (other, child) :: entries =>
      if other = name then (name, tree) :: entries
      else (other, child) :: put name tree entries

/-- Make every directory on a way that is not there yet. -/
def makeDirectories : List Bytes -> FileTree -> Option FileTree
  | [], .directory entries condition => some (.directory entries condition)
  | name :: names, .directory entries condition =>
      if condition.searchable then
        match makeDirectories names ((entries.lookup name).getD emptyDirectory) with
        | some child => some (.directory (put name child entries) condition)
        | none => none
      else none
  | _, _ => none

/-- Change the entries of the directory at the end of a way.  Every directory
on the way has to be one that can be searched. -/
def changeEntries (change : Entries -> Option Entries) : List Bytes -> FileTree -> Option FileTree
  | [], .directory entries condition =>
      if condition.searchable then
        match change entries with
        | some changed => some (.directory changed condition)
        | none => none
      else none
  | name :: names, .directory entries condition =>
      if condition.searchable then
        match entries.lookup name with
        | some child =>
            match changeEntries change names child with
            | some changed => some (.directory (put name changed entries) condition)
            | none => none
        | none => none
      else none
  | _, _ => none

/-- Change what one name stands for in the directory that holds it. -/
def changeLast (way : List Bytes) (change : Bytes -> Entries -> Option Entries)
    (tree : FileTree) : Option FileTree :=
  match way.getLast? with
  | some last => changeEntries (change last) way.dropLast tree
  | none => none

/-- A new file, or new content for an open one. -/
def writeFile (way : List Bytes) (content : Bytes) : FileTree -> Option FileTree :=
  changeLast way fun name entries =>
    match entries.lookup name with
    | none => some (put name (.file content false) entries)
    | some (.file _ false) => some (put name (.file content false) entries)
    | some _ => none

/-- A new link.  Its name must be free, and its target a path that the system
takes. -/
def makeLink (way : List Bytes) (target : Bytes) : FileTree -> Option FileTree :=
  changeLast way fun name entries =>
    match entries.lookup name, FileSystem.pathFault? ⟨target⟩ with
    | none, none => some (put name (.link target false) entries)
    | _, _ => none

def remove (way : List Bytes) : FileTree -> Option FileTree :=
  changeLast way fun name entries =>
    match entries.lookup name with
    | some _ => some (entries.filter fun entry => entry.1 ≠ name)
    | none => none

/-- Close a file or directory to the reader, or open it again. -/
def setClosed (way : List Bytes) (closed : Bool) : FileTree -> Option FileTree :=
  changeLast way fun name entries =>
    match entries.lookup name with
    | some (.file content _) => some (put name (.file content closed) entries)
    | some (.directory children condition) =>
        some (put name (.directory children ⟨!closed, !closed, condition.lost⟩) entries)
    | _ => none

/-! Ways of paths -/

def isDots (name : Bytes) : Bool :=
  name = Path.dot || name = Path.dotDot

/-- A name that a new entry can have. -/
def isPlainName (name : Bytes) : Bool :=
  !isDots name && decide (name.length ≤ Place.longestName)

/-- Follow names from the end of a way and make the directories that are
missing: the tree with them, and the way that the names lead to.  Also a
directory that two dots leave again is made. -/
def makeWay (tree : FileTree) (way : List Bytes) : List Bytes ->
    Option (FileTree × List Bytes)
  | [] => some (tree, way)
  | name :: names =>
      if name = Path.dot then makeWay tree way names
      else if name = Path.dotDot then makeWay tree way.dropLast names
      else if isPlainName name then
        match makeDirectories (way ++ [name]) tree with
        | some made => makeWay made (way ++ [name]) names
        | none => none
      else none

/-- The way that names lead to in the tree as it is. -/
def wayOf? (tree : FileTree) (names : List Bytes) : Option (List Bytes) :=
  match (Place.top tree).advance names with
  | .ok (place, []) => some place.names
  | _ => none

/-- The way of a path whose last name need not stand for anything yet. -/
def wayTo? (tree : FileTree) (path : Path) : Option (List Bytes) :=
  match path.parts.getLast? with
  | some last =>
      if isDots last then tree.wayOf? path.parts
      else if isPlainName last then
        (tree.wayOf? path.parts.dropLast).map fun way => way ++ [last]
      else none
  | none => none

/-- Paths lead into a tree if the system takes them and they start at its top. -/
def takesPath (path : Path) : Bool :=
  path.isAbsolute && (FileSystem.pathFault? path).isNone

/-- Make the directories on a path that are not there yet. -/
def makePath (path : Path) (tree : FileTree) : Option FileTree :=
  if takesPath path then (makeWay tree [] path.parts).map Prod.fst else none

/-- Change what a path leads to. -/
def changeAt (path : Path) (change : List Bytes -> FileTree -> Option FileTree)
    (tree : FileTree) : Option FileTree :=
  if takesPath path then (tree.wayTo? path).bind fun way => change way tree else none

/-- Write a file at a path whose last name is its own. -/
def writeAt (path : Path) (content : Bytes) : FileTree -> Option FileTree :=
  changeAt path fun way => writeFile way content

/-- Write a file after making the directories above it. -/
def writeBelow (path : Path) (content : Bytes) (tree : FileTree) : Option FileTree :=
  match makeWay tree [] path.parts.dropLast with
  | some (made, _) => writeAt path content made
  | none => none

/-- Write a file if there is content for it. -/
def writeIfGiven (path : Path) : Option Bytes -> FileTree -> Option FileTree
  | some content, tree => writeAt path content tree
  | none, tree => some tree

/-! Steps -/

inductive Step where
  | addProcess (pid : ProcessId)
  | addDescriptor (pid : ProcessId) (number : UInt32) (target : Bytes)
  | addPlainFile (pid : ProcessId) (name : Bytes)
  | addThread (pid : ProcessId) (tid : ThreadId) (name status : Option Bytes)
  | writeStatus (pid : ProcessId) (content : Bytes)
  | writeTcpTable (content : Bytes)
  | writeUdpTable (content : Bytes)
  | makeDirectory (path : Path)
  | write (path : Path) (content : Bytes)
  | symlink (path : Path) (target : Bytes)
  | delete (path : Path)
  | deny (path : Path)
  | allow (path : Path)

def Step.apply (root : ProcRoot) (tree : FileTree) : Step -> Option FileTree
  | .addProcess pid =>
      (makePath (root.descriptorDir pid) tree).bind (makePath (root.taskDir pid))
  | .addDescriptor pid number target =>
      changeAt ((root.descriptorDir pid).join (Path.ofText (Decimal.text number.toNat)))
        (fun way => makeLink way target) tree
  | .addPlainFile pid name => writeAt ((root.descriptorDir pid).join ⟨name⟩) [] tree
  | .addThread pid tid name status =>
      ((makePath ((root.taskDir pid).join (Path.ofText tid.text)) tree).bind
        (writeIfGiven (root.threadNameFile pid tid) name)).bind
        (writeIfGiven (root.threadStatusFile pid tid) status)
  | .writeStatus pid content => writeBelow (root.statusFile pid) content tree
  | .writeTcpTable content => writeBelow root.tcpTable content tree
  | .writeUdpTable content => writeBelow root.udpTable content tree
  | .makeDirectory path => makePath (root.path.join path) tree
  | .write path content => writeBelow (root.path.join path) content tree
  | .symlink path target => changeAt (root.path.join path) (fun way => makeLink way target) tree
  | .delete path => changeAt (root.path.join path) remove tree
  | .deny path => changeAt (root.path.join path) (fun way => setClosed way true) tree
  | .allow path => changeAt (root.path.join path) (fun way => setClosed way false) tree

/-- The tree with nothing but an empty root directory. -/
def ofRoot (root : ProcRoot) : Option FileTree :=
  makePath root.path emptyDirectory

/-- Run steps in order on an empty root directory. -/
def build (root : ProcRoot) (steps : List Step) : Option FileTree :=
  (ofRoot root).bind fun tree => steps.foldlM (fun tree step => step.apply root tree) tree

end FileTree
end ProcInspection
