import ProcInspection.Task.Status
import ProcInspection.Task.StateScan

namespace ProcInspection

/-!
The threads of a process.

Each numeric entry of the task directory is a thread.  What cannot be read of
a thread degrades that thread alone: the name to a placeholder, the state to
unknown.  The files of a thread are looked up under its number, so an entry
written with leading zeros lends its number and nothing else.
-/

structure Thread where
  tid : ThreadId
  name : String
  state : RunState
  deriving DecidableEq

namespace Thread

def readName (files : FileSystem) (root : ProcRoot) (pid : ProcessId) (tid : ThreadId) :
    Except IoFailure String :=
  match files.read (root.threadNameFile pid tid) with
  | .ok content => .ok (TaskName.ofFile content)
  | .error cause => .error cause

def readState (files : FileSystem) (root : ProcRoot) (pid : ProcessId) (tid : ThreadId) : RunState :=
  match files.read (root.threadStatusFile pid tid) with
  | .ok content => StateScan.scan [.ok content]
  | .error _ => .unknown

def read (files : FileSystem) (root : ProcRoot) (pid : ProcessId) (tid : ThreadId) : Thread where
  tid := tid
  name := match readName files root pid tid with
    | .ok name => name
    | .error _ => TaskName.unreadable
  state := readState files root pid tid

/-- The thread numbers among the names of a directory. -/
def numbers (names : List Bytes) : List ThreadId :=
  names.filterMap fun name => (Decimal.ofName? name).map ThreadId.mk

def enumerate (files : FileSystem) (root : ProcRoot) (pid : ProcessId) :
    Except Failure (List Thread) :=
  match files.list (root.taskDir pid) with
  | .ok names => .ok ((numbers names).map (read files root pid))
  | .error cause => .error (.ofProcessRead pid cause)

def json (thread : Thread) : Json :=
  .object
    [("tid", .number thread.tid.number.toNat),
      ("name", .text thread.name),
      ("state", .text thread.state.name)]

end Thread
end ProcInspection
