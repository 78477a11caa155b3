import ProcInspection.Report.Document
import ProcInspection.Report.Format
import ProcInspection.Report.Human

namespace ProcInspection

/-!
Writing a report to where it is asked for.

A sink takes bytes until it is full.  A write that does not fit leaves what
fits and fails.  Where writing a report fails decides which failure it is: in
the middle of a document it is one of the document, and anywhere else one of
the output.
-/

/-- Where bytes go.  Without a room it takes all of them. -/
structure Sink where
  written : Bytes
  room : Option Nat
  flushFails : Bool
  deriving DecidableEq

namespace Sink

/-- A sink that takes everything. -/
def unlimited : Sink :=
  ⟨[], none, false⟩

def full : IoFailure :=
  ⟨.other, "sink full"⟩

def unflushed : IoFailure :=
  ⟨.other, "flush failed"⟩

def write (sink : Sink) (bytes : Bytes) : Sink × Except IoFailure Unit :=
  match sink.room with
  | none => ({ sink with written := sink.written ++ bytes }, .ok ())
  | some room =>
      ({ sink with
          written := sink.written ++ bytes.take room
          room := some (room - bytes.length) },
        if bytes.length ≤ room then .ok () else .error full)

def flush (sink : Sink) : Except IoFailure Unit :=
  if sink.flushFails then .error unflushed else .ok ()

end Sink

namespace Report

/-- The end of a write: flush, unless it failed before. -/
def finish (sink : Sink) : Except IoFailure Unit -> Sink × Except Failure Unit
  | .error cause => (sink, .error (.io cause))
  | .ok () =>
      match sink.flush with
      | .ok () => (sink, .ok ())
      | .error cause => (sink, .error (.io cause))

def write (sink : Sink) (report : Report) (format : OutputFormat) (verbose : Bool) :
    Sink × Except Failure Unit :=
  match format with
  | .human =>
      let (after, result) := sink.write (Utf8.encode (report.humanText verbose))
      finish after result
  | .json =>
      let (after, result) := sink.write (Utf8.encode report.json.indentedText)
      match result with
      | .error cause => (after, .error (.json cause.text))
      | .ok () =>
          let (ended, result) := after.write (Utf8.encode "\n")
          finish ended result

end Report
end ProcInspection
