import ProcInspection.IoFailure
import ProcInspection.Task.Name
import ProcInspection.Task.RunState

namespace ProcInspection
namespace StateScan

/-!
Finding the state line in a stream.

A stream is delivered in chunks, between which the reader may fail.  Lines are
put together across chunks.  The first line that starts with the label decides
and nothing after it is read.  An interruption is tried again; any other
failure ends the scan, and the line it cut short is lost.  At the end of the
stream an unfinished line counts as a line.
-/

abbrev Stream := List (Except IoKind Bytes)

def label : Bytes := Utf8.encode "State:"

/-- The state that a line gives, if it is a state line. -/
def ofLine? (line : Bytes) : Option RunState :=
  match List.isPrefixOf? label line with
  | some value => some (RunState.ofValue value)
  | none => none

/-- What is known after some bytes: the state, or the line begun so far. -/
inductive Progress where
  | found (state : RunState)
  | unfinished (line : Bytes)

/-- Take bytes one by one onto the line begun before, which is held reversed. -/
def take (reversed : Bytes) : Bytes -> Progress
  | [] => .unfinished reversed
  | byte :: bytes =>
      if byte = TaskName.lineFeed then
        match ofLine? reversed.reverse with
        | some state => .found state
        | none => take [] bytes
      else take (byte :: reversed) bytes

def scanFrom (reversed : Bytes) : Stream -> RunState
  | [] => (ofLine? reversed.reverse).getD .unknown
  | .error .interrupted :: stream => scanFrom reversed stream
  | .error _ :: _ => .unknown
  | .ok bytes :: stream =>
      match take reversed bytes with
      | .found state => state
      | .unfinished line => scanFrom line stream

def scan (stream : Stream) : RunState :=
  scanFrom [] stream

end StateScan
end ProcInspection
