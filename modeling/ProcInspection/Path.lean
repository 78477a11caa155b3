import ProcInspection.Task.Id

namespace ProcInspection

/-!
Paths, and the places below the proc root that an inspection reads.

A path is a byte string.  Joining adds one separator where it is needed and
normalises nothing else.  Where a path leads is for a tree of files to say: the
dots among its names depend on what the other names stand for.
-/

structure Path where
  bytes : Bytes
  deriving DecidableEq

namespace Path

def separator : UInt8 := 0x2F

def isAbsolute (path : Path) : Bool :=
  path.bytes.head? = some separator

/-- Does a further part need a separator in front?  Not after a separator, and
not on the empty path. -/
def needsSeparator (path : Path) : Bool :=
  match path.bytes.getLast? with
  | some byte => byte ≠ separator
  | none => false

/-- An absolute part replaces the path; any other is appended. -/
def join (path part : Path) : Path :=
  if part.isAbsolute then part
  else if path.needsSeparator then ⟨path.bytes ++ separator :: part.bytes⟩
  else ⟨path.bytes ++ part.bytes⟩

def ofText (text : String) : Path :=
  ⟨Utf8.encode text⟩

def text (path : Path) : String :=
  Utf8.decodeLossy path.bytes

/-- The name that stays in a directory. -/
def dot : Bytes :=
  [0x2E]

/-- The name that leads to the directory above. -/
def dotDot : Bytes :=
  [0x2E, 0x2E]

/-- The names between the separators.  Doubled separators name nothing. -/
def parts (path : Path) : List Bytes :=
  (path.bytes.splitOnP (· == separator)).filter fun name => !name.isEmpty

/-- The names on the way, from the top.  A separator at the end asks for a
directory, as a dot behind it would. -/
def names (path : Path) : List Bytes :=
  if path.bytes.getLast? = some separator then path.parts ++ [dot] else path.parts

end Path

/-- The directory below which the process data is found. -/
structure ProcRoot where
  path : Path
  deriving DecidableEq

namespace ProcRoot

def standard : ProcRoot :=
  ⟨Path.ofText "/proc"⟩

def processDir (root : ProcRoot) (pid : ProcessId) : Path :=
  root.path.join (Path.ofText pid.text)

def processFile (root : ProcRoot) (pid : ProcessId) (file : Path) : Path :=
  (root.processDir pid).join file

def descriptorDir (root : ProcRoot) (pid : ProcessId) : Path :=
  root.processFile pid (Path.ofText "fd")

def taskDir (root : ProcRoot) (pid : ProcessId) : Path :=
  root.processFile pid (Path.ofText "task")

def taskFile (root : ProcRoot) (pid : ProcessId) (tid : ThreadId) (file : Path) : Path :=
  ((root.taskDir pid).join (Path.ofText tid.text)).join file

def statusFile (root : ProcRoot) (pid : ProcessId) : Path :=
  root.processFile pid (Path.ofText "status")

def threadNameFile (root : ProcRoot) (pid : ProcessId) (tid : ThreadId) : Path :=
  root.taskFile pid tid (Path.ofText "comm")

def threadStatusFile (root : ProcRoot) (pid : ProcessId) (tid : ThreadId) : Path :=
  root.taskFile pid tid (Path.ofText "status")

def tcpTable (root : ProcRoot) : Path :=
  (root.path.join (Path.ofText "net")).join (Path.ofText "tcp")

def udpTable (root : ProcRoot) : Path :=
  (root.path.join (Path.ofText "net")).join (Path.ofText "udp")

end ProcRoot
end ProcInspection
