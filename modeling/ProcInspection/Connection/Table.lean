import ProcInspection.Connection.Row
import ProcInspection.Failure
import ProcInspection.FileSystem

namespace ProcInspection
namespace ConnectionTable

/-!
Connection tables.

The first line of a table is a heading.  Each further line is a row or is
passed over.  A reader names the inodes it looks for; when it names none, the
table is not even opened.  Inode zero belongs to no socket.
-/

def lines (content : List Char) : List (List Char) :=
  content.splitOnP fun c => c == '\n'

/-- Is the connection one of those looked for? -/
def isWanted (targets : List UInt64) (connection : Connection) : Bool :=
  connection.inode ≠ 0 && targets.contains connection.inode

def parse (protocol : Protocol) (targets : List UInt64) (content : List Char) :
    List Connection :=
  if targets.isEmpty then []
  else (((lines content).drop 1).filterMap (Connection.ofRow? protocol)).filter (isWanted targets)

def read (files : FileSystem) (path : Path) (protocol : Protocol) (targets : List UInt64) :
    Except Failure (List Connection) :=
  if targets.isEmpty then .ok []
  else
    match files.readText path with
    | .ok content => .ok (parse protocol targets content.toList)
    | .error cause => .error (.connectionTable path cause)

def heading : String :=
  "  sl  local_address rem_address   st tx_queue rx_queue tr tm->when retrnsmt   uid  timeout inode"

/-- A table of the given rows under the usual heading. -/
def write (rows : List (List Char)) : List Char :=
  (heading.toList :: rows).flatMap fun line => line ++ ['\n']

end ConnectionTable
end ProcInspection
