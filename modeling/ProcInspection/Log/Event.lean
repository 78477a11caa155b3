import ProcInspection.Connection.State
import ProcInspection.Inspection
import ProcInspection.Log.Level

namespace ProcInspection

/-!
What an inspection has to say about its course.

Counts are for those who look for errors, and each entry that was passed over
for those who look more closely.
-/

inductive LogEvent where
  | inspectStarted (pid : ProcessId) (root : Path)
  | descriptorSkipped (pid : ProcessId) (number : UInt32) (cause : IoFailure)
  | descriptorsEnumerated (pid : ProcessId) (count skipped : Nat)
  | rowSkipped (protocol : Protocol) (line : Nat)
  | tableParsed (protocol : Protocol) (path : Path) (matched : Nat)
  | threadSkipped (pid : ProcessId) (tid : ThreadId) (cause : IoFailure)
  | threadsEnumerated (pid : ProcessId) (count : Nat)
  | sectionFailed (pid : ProcessId) (reportSection : ReportSection) (failure : Failure)
  | inspectFinished (pid : ProcessId) (failed : Nat)

/-- A value in a log line: a number, a fixed text that is quoted, or a value
that is shown as it is. -/
inductive LogValue where
  | number (value : Nat)
  | quoted (value : String)
  | shown (value : String)

namespace LogEvent

def name : LogEvent -> String
  | .inspectStarted .. => "inspect.started"
  | .descriptorSkipped .. => "fd.skipped"
  | .descriptorsEnumerated .. => "fd.enumerated"
  | .rowSkipped .. => "net.row_skipped"
  | .tableParsed .. => "net.table_parsed"
  | .threadSkipped .. => "task.skipped"
  | .threadsEnumerated .. => "task.enumerated"
  | .sectionFailed .. => "inspect.section_failed"
  | .inspectFinished .. => "inspect.finished"

def level : LogEvent -> LogLevel
  | .descriptorSkipped .. => .trace
  | .rowSkipped .. => .trace
  | .threadSkipped .. => .trace
  | _ => .debug

/-- The name that filters know the event's source by. -/
def source : LogEvent -> String
  | .descriptorSkipped .. => "pinspect_core::collect::fd"
  | .descriptorsEnumerated .. => "pinspect_core::collect::fd"
  | .rowSkipped .. => "pinspect_core::collect::network"
  | .tableParsed .. => "pinspect_core::collect::network"
  | .threadSkipped .. => "pinspect_core::collect::task"
  | .threadsEnumerated .. => "pinspect_core::collect::task"
  | .inspectStarted .. => "pinspect_core::inspect"
  | .sectionFailed .. => "pinspect_core::inspect"
  | .inspectFinished .. => "pinspect_core::inspect"

def message? : LogEvent -> Option String
  | .inspectStarted .. => none
  | .descriptorSkipped .. => some "descriptor vanished during scan"
  | .descriptorsEnumerated .. => some "enumerated descriptors"
  | .rowSkipped .. => some "malformed connection row"
  | .tableParsed .. => some "parsed connection table"
  | .threadSkipped .. => some "thread comm unreadable"
  | .threadsEnumerated .. => some "enumerated threads"
  | .sectionFailed .. => some "section unreadable"
  | .inspectFinished .. => some "inspection finished"

def pidField (pid : ProcessId) : String × LogValue :=
  ("pid", .number pid.number.toNat)

/-- The values that belong to one event alone. -/
def details : LogEvent -> List (String × LogValue)
  | .inspectStarted pid root => [pidField pid, ("root", .shown root.text)]
  | .descriptorSkipped pid number cause =>
      [pidField pid, ("fd", .number number.toNat), ("error", .shown cause.text)]
  | .descriptorsEnumerated pid count skipped =>
      [pidField pid, ("count", .number count), ("skipped", .number skipped)]
  | .rowSkipped protocol line => [("protocol", .shown protocol.text), ("line", .number line)]
  | .tableParsed protocol path matched =>
      [("protocol", .shown protocol.text), ("path", .shown path.text), ("matched", .number matched)]
  | .threadSkipped pid tid cause =>
      [pidField pid, ("tid", .number tid.number.toNat), ("error", .shown cause.text)]
  | .threadsEnumerated pid count => [pidField pid, ("count", .number count)]
  | .sectionFailed pid reportSection failure =>
      [pidField pid, ("section", .quoted reportSection.title), ("error", .shown failure.message)]
  | .inspectFinished pid failed => [pidField pid, ("failed_sections", .number failed)]

def fields (event : LogEvent) : List (String × LogValue) :=
  ("event", .quoted event.name) :: event.details

/-- The names that filters know the event's contents by. -/
def fieldNames (event : LogEvent) : List String :=
  (event.message?.map fun _ => "message").toList ++ event.fields.map Prod.fst

end LogEvent
end ProcInspection
