import ProcInspection.Failure
import ProcInspection.FileSystem

namespace ProcInspection

/-!
The open descriptors of a process.

Each numeric entry of the descriptor directory is a link whose target names
what is open.  A target `socket:[n]` carries the inode number by which the
connection tables know the socket.  An entry whose link cannot be read has
just been closed and is left out.
-/

inductive DescriptorKind where
  | file
  | socket
  | pipe
  | device
  | anonymous
  | other
  deriving DecidableEq

namespace DescriptorKind

def all : List DescriptorKind :=
  [.file, .socket, .pipe, .device, .anonymous, .other]

/-- The start of the target decides. -/
def ofTarget (target : String) : DescriptorKind :=
  let starts (mark : String) : Bool := List.isPrefixOf mark.toList target.toList
  if starts "socket:" then .socket
  else if starts "pipe:" then .pipe
  else if starts "anon_inode:" then .anonymous
  else if starts "/dev/" then .device
  else if starts "/" then .file
  else .other

/-- The word in tables. -/
def text : DescriptorKind -> String
  | .file => "file"
  | .socket => "socket"
  | .pipe => "pipe"
  | .device => "device"
  | .anonymous => "anon"
  | .other => "other"

/-- The name in documents. -/
def name : DescriptorKind -> String
  | .anonymous => "anon_inode"
  | kind => kind.text

end DescriptorKind

structure Descriptor where
  number : UInt32
  target : String
  kind : DescriptorKind
  inode : Option UInt64
  deriving DecidableEq

namespace Descriptor

/-- A text without its last character, if that is the given one. -/
def dropLast? (last : Char) (text : List Char) : Option (List Char) :=
  if text.getLast? = some last then some text.dropLast else none

/-- The inode of a target that is exactly `socket:[`, a 64-bit number and `]`. -/
def socketInode? (target : String) : Option UInt64 :=
  match List.isPrefixOf? "socket:[".toList target.toList with
  | some rest =>
      match dropLast? ']' rest with
      | some digits => Decimal.word64? digits
      | none => none
  | none => none

def ofTarget (number : UInt32) (target : String) : Descriptor :=
  ⟨number, target, .ofTarget target, socketInode? target⟩

def isSocket (descriptor : Descriptor) : Bool :=
  descriptor.inode.isSome

/-- Add a number to an ascending list without repetitions. -/
def insertInode (inode : UInt64) : List UInt64 -> List UInt64
  | [] => [inode]
  | other :: rest =>
      if inode < other then inode :: other :: rest
      else if inode = other then other :: rest
      else other :: insertInode inode rest

/-- The inodes of the sockets among some descriptors, ascending, each once.
Zero is no inode. -/
def inodes (descriptors : List Descriptor) : List UInt64 :=
  ((descriptors.filterMap inode).filter fun inode => inode ≠ 0).foldr insertInode []

/-- What becomes of one numbered entry of the directory. -/
inductive Entry where
  | listed (descriptor : Descriptor)
  | skipped (number : UInt32) (cause : IoFailure)

def Entry.descriptor? : Entry -> Option Descriptor
  | .listed descriptor => some descriptor
  | .skipped _ _ => none

def readEntry (files : FileSystem) (directory : Path) (name : Bytes) (number : UInt32) : Entry :=
  match files.readLink (directory.join ⟨name⟩) with
  | .ok target => .listed (ofTarget number (Utf8.decodeLossy target))
  | .error cause => .skipped number cause

/-- The numbered entries; names that are no 32-bit number are passed over. -/
def readEntries (files : FileSystem) (directory : Path) (names : List Bytes) : List Entry :=
  names.filterMap fun name => (Decimal.ofName? name).map (readEntry files directory name)

def enumerate (files : FileSystem) (root : ProcRoot) (pid : ProcessId) :
    Except Failure (List Descriptor) :=
  match files.list (root.descriptorDir pid) with
  | .ok names =>
      .ok ((readEntries files (root.descriptorDir pid) names).filterMap Entry.descriptor?)
  | .error cause => .error (.ofProcessRead pid cause)

def json (descriptor : Descriptor) : Json :=
  .object (
    [("fd", .number descriptor.number.toNat),
      ("target", .text descriptor.target),
      ("kind", .text descriptor.kind.name)]
      ++ Json.optionalField "socket_inode"
        (descriptor.inode.map fun inode => .number inode.toNat))

end Descriptor
end ProcInspection
