import ProcInspection.Text.Utf8

namespace ProcInspection
namespace TaskName

/-!
Names of processes and threads.

The kernel keeps at most fifteen bytes of a name, in no particular encoding.
The cap is on bytes, so it may cut a character, which is then shown as broken.
-/

def byteLimit : Nat := 15

def lineFeed : UInt8 := 0x0A

def ofBytes (raw : Bytes) : String :=
  Utf8.decodeLossy (raw.take byteLimit)

/-- The name in a one-line file: what stands before the first line feed. -/
def ofFile (content : Bytes) : String :=
  ofBytes (content.takeWhile fun byte => byte ≠ lineFeed)

/-- What stands for the name of a thread whose file cannot be read. -/
def unreadable : String := "???"

end TaskName
end ProcInspection
