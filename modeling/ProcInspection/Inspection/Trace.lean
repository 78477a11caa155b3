import ProcInspection.Log.Event

namespace ProcInspection
namespace Trace

/-!
The log of an inspection.

The log is a function of the same reads as the report, so it can be followed
beside it: what was passed over, what was counted and which sections failed,
in the order in which the sections are read.
-/

def skipEvent? (pid : ProcessId) : Descriptor.Entry -> Option LogEvent
  | .listed _ => none
  | .skipped number cause => some (.descriptorSkipped pid number cause)

/-- Reading the descriptors: each link that was passed over, then the counts.
The entries that the listing failed on count as passed over. -/
def ofDescriptors (files : FileSystem) (root : ProcRoot) (pid : ProcessId) : List LogEvent :=
  match files.list (root.descriptorDir pid) with
  | .ok names =>
      let entries := Descriptor.readEntries files (root.descriptorDir pid) names
      let skipped := entries.filterMap (skipEvent? pid)
      let count := (entries.filterMap Descriptor.Entry.descriptor?).length
      skipped ++ [.descriptorsEnumerated pid count
        (files.lost (root.descriptorDir pid) + skipped.length)]
  | .error _ => []

/-- A line that is neither a row nor blank. -/
def isMalformed (protocol : Protocol) (line : List Char) : Bool :=
  (Connection.ofRow? protocol line).isNone && !line.all Blank.isBlank

/-- The malformed lines from a line number on. -/
def malformedFrom (protocol : Protocol) (number : Nat) : List (List Char) -> List LogEvent
  | [] => []
  | line :: lines =>
      if isMalformed protocol line then
        .rowSkipped protocol number :: malformedFrom protocol (number + 1) lines
      else malformedFrom protocol (number + 1) lines

/-- Reading one table: its malformed lines, then the count of rows found. -/
def ofTable (files : FileSystem) (path : Path) (protocol : Protocol) (targets : List UInt64) :
    List LogEvent :=
  if targets.isEmpty then []
  else
    match files.readText path with
    | .ok content =>
        malformedFrom protocol 2 ((ConnectionTable.lines content.toList).drop 1)
          ++ [.tableParsed protocol path (ConnectionTable.parse protocol targets content.toList).length]
    | .error _ => []

/-- Joining descriptors to the tables.  The second table is not read after the
first one failed. -/
def ofSockets (files : FileSystem) (root : ProcRoot) (descriptors : List Descriptor) :
    List LogEvent :=
  let inodes := Descriptor.inodes descriptors
  ofTable files root.tcpTable .tcp inodes
    ++ match ConnectionTable.read files root.tcpTable .tcp inodes with
      | .ok _ => ofTable files root.udpTable .udp inodes
      | .error _ => []

def threadEvent? (files : FileSystem) (root : ProcRoot) (pid : ProcessId) (tid : ThreadId) :
    Option LogEvent :=
  match Thread.readName files root pid tid with
  | .ok _ => none
  | .error cause => some (.threadSkipped pid tid cause)

/-- Reading the threads: each unreadable name, then the count. -/
def ofThreads (files : FileSystem) (root : ProcRoot) (pid : ProcessId) : List LogEvent :=
  match files.list (root.taskDir pid) with
  | .ok names =>
      let tids := Thread.numbers names
      tids.filterMap (threadEvent? files root pid) ++ [.threadsEnumerated pid tids.length]
  | .error _ => []

/-- The event of a section that failed. -/
def ofFailure (pid : ProcessId) (reportSection : ReportSection) : Option Failure -> List LogEvent
  | some failure => [.sectionFailed pid reportSection failure]
  | none => []

/-- The sections after the status, in the order in which they are read. -/
def ofSections (files : FileSystem) (root : ProcRoot) (pid : ProcessId)
    (options : InspectOptions) : List LogEvent :=
  let listing := Descriptor.enumerate files root pid
  let threads := Inspection.asked options.wantsThreads (Thread.enumerate files root pid)
  let sockets := Inspection.asked true (Inspection.socketsFor files root listing)
  ofDescriptors files root pid
    ++ (match listing with
      | .ok descriptors => ofSockets files root descriptors
      | .error _ => [])
    ++ ofFailure pid .descriptors
      (Inspection.failure? (Inspection.asked options.wantsDescriptors listing))
    ++ ofFailure pid .sockets (Inspection.failure? sockets)
    ++ (if options.wantsThreads then ofThreads files root pid else [])
    ++ ofFailure pid .threads (Inspection.failure? threads)

def ofInspection (files : FileSystem) (root : ProcRoot) (pid : ProcessId)
    (options : InspectOptions) : List LogEvent :=
  .inspectStarted pid root.path
    :: match Inspection.run files root pid options with
      | .ok report =>
          ofSections files root pid options
            ++ [.inspectFinished pid report.failures.toList.length]
      | .error _ => []

end Trace
end ProcInspection
