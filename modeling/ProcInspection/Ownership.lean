import ProcInspection.Connection.Table
import ProcInspection.Task.Descriptor

namespace ProcInspection
namespace Ownership

/-!
Which connections a process owns.

A process owns the rows whose inode is that of one of its sockets.  The two
tables are joined in order, the stream table first, and the first one that
cannot be read fails the whole answer.  A process without sockets owns nothing
and needs no table.
-/

/-- The rows of both tables for some inodes. -/
def rowsFor (files : FileSystem) (root : ProcRoot) (inodes : List UInt64) :
    Except Failure (List Connection) :=
  if inodes.isEmpty then .ok []
  else
    match ConnectionTable.read files root.tcpTable .tcp inodes with
    | .ok streams =>
        match ConnectionTable.read files root.udpTable .udp inodes with
        | .ok datagrams => .ok (streams ++ datagrams)
        | .error failure => .error failure
    | .error failure => .error failure

/-- The connections behind some descriptors. -/
def correlate (files : FileSystem) (root : ProcRoot) (descriptors : List Descriptor) :
    Except Failure (List Connection) :=
  rowsFor files root (Descriptor.inodes descriptors)

/-- The connections of a process. -/
def socketsOf (files : FileSystem) (root : ProcRoot) (pid : ProcessId) :
    Except Failure (List Connection) :=
  match Descriptor.enumerate files root pid with
  | .ok descriptors => correlate files root descriptors
  | .error failure => .error failure

end Ownership
end ProcInspection
