import ProcInspection.Connection.Endpoint
import ProcInspection.Connection.State
import ProcInspection.Json
import ProcInspection.Text.Blank
import ProcInspection.Text.Column

namespace ProcInspection

/-!
One connection, and the table row that describes it.

A row is ten or more words.  The second and third are the endpoints, the
fourth is the state, the eighth the owner and the tenth the inode.  The other
words do not matter.
-/

structure Connection where
  protocol : Protocol
  localEnd : Endpoint
  remoteEnd : Endpoint
  state : ConnectionState
  owner : UInt32
  inode : UInt64
  deriving DecidableEq

namespace Connection

def ofWords? (protocol : Protocol) : List (List Char) -> Option Connection
  | _ :: here :: there :: state :: _ :: _ :: _ :: owner :: _ :: inode :: _ =>
      match Endpoint.decode? here, Endpoint.decode? there, Hex.value? 1 2 state,
          Decimal.word32? owner, Decimal.word64? inode with
      | some here, some there, some state, some owner, some inode =>
          some ⟨protocol, here, there, .ofNumber state, owner, inode⟩
      | _, _, _, _, _ => none
  | _ => none

def ofRow? (protocol : Protocol) (row : List Char) : Option Connection :=
  ofWords? protocol (Blank.words row)

/-- A row as the kernel writes it, around endpoints that are already written. -/
def row (slot : UInt64) (here there : List Char) (state : UInt8) (owner : UInt32)
    (inode : UInt64) : List Char :=
  Column.right 4 (Decimal.digits slot.toNat) ++ ": ".toList ++ here ++ ' ' :: there
    ++ ' ' :: Hex.upper 2 state.toNat
    ++ " 00000000:00000000 00:00000000 00000000 ".toList
    ++ Column.right 5 (Decimal.digits owner.toNat) ++ "        0 ".toList
    ++ Decimal.digits inode.toNat ++ " 1 0000000000000000 100 0 0 10 0".toList

def json (connection : Connection) : Json :=
  .object
    [("protocol", .text connection.protocol.name),
      ("local_addr", .text connection.localEnd.address.text),
      ("local_port", .number connection.localEnd.port.toNat),
      ("remote_addr", .text connection.remoteEnd.address.text),
      ("remote_port", .number connection.remoteEnd.port.toNat),
      ("state", .text connection.state.text),
      ("uid", .number connection.owner.toNat),
      ("inode", .number connection.inode.toNat)]

end Connection
end ProcInspection
