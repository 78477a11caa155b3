import ProcInspection.Ownership
import ProcInspection.Task.Thread

namespace ProcInspection

/-!
One inspection of a process.

The status file decides whether there is a report at all.  Every other section
is read on its own: one that fails is recorded in the report, and the rest of
the report is still there, unless the failure is that memory ran out.  Sockets
are looked up for one listing of the descriptors, so when that listing fails
both sections carry its failure.
-/

structure InspectOptions where
  networkOnly : Bool
  threads : Bool
  deriving DecidableEq

namespace InspectOptions

/-- Read every section. -/
def full : InspectOptions :=
  ⟨false, true⟩

def wantsDescriptors (options : InspectOptions) : Bool :=
  !options.networkOnly

def wantsThreads (options : InspectOptions) : Bool :=
  options.threads && !options.networkOnly

end InspectOptions

inductive ReportSection where
  | descriptors
  | threads
  | sockets
  deriving DecidableEq

namespace ReportSection

def all : List ReportSection :=
  [.descriptors, .threads, .sockets]

def title : ReportSection -> String
  | .descriptors => "File Descriptors"
  | .threads => "Threads"
  | .sockets => "Network Connections"

/-- The name in documents. -/
def name : ReportSection -> String
  | .descriptors => "fds"
  | .threads => "threads"
  | .sockets => "sockets"

end ReportSection

/-- The failures of the sections. -/
structure SectionFailures where
  descriptors : Option FailureReport
  threads : Option FailureReport
  sockets : Option FailureReport
  deriving DecidableEq

namespace SectionFailures

def empty : SectionFailures :=
  ⟨none, none, none⟩

def get (failures : SectionFailures) : ReportSection -> Option FailureReport
  | .descriptors => failures.descriptors
  | .threads => failures.threads
  | .sockets => failures.sockets

/-- The failed sections in order, each with its failure. -/
def toList (failures : SectionFailures) : List (ReportSection × FailureReport) :=
  ReportSection.all.filterMap fun reportSection =>
    (failures.get reportSection).map fun failure => (reportSection, failure)

end SectionFailures

structure Report where
  pid : ProcessId
  status : Status
  descriptors : Option (List Descriptor)
  threads : Option (List Thread)
  sockets : Option (List Connection)
  failures : SectionFailures
  deriving DecidableEq

namespace Inspection

variable {α : Type}

/-- The outcome of a section that may not have been asked for. -/
abbrev Outcome (α : Type) := Option (Except Failure α)

def value? : Outcome α -> Option α
  | some (.ok value) => some value
  | _ => none

def failure? : Outcome α -> Option Failure
  | some (.error failure) => some failure
  | _ => none

def asked (wanted : Bool) (result : Except Failure α) : Outcome α :=
  if wanted then some result else none

/-- A section that ran out of memory ends the inspection.  Any other failure
stays in its section. -/
def settle (outcome : Outcome α) : Except Failure (Outcome α) :=
  match outcome with
  | some (.error failure) =>
      if failure.category = .resourceExhausted then .error failure else .ok outcome
  | _ => .ok outcome

/-- The connections behind a listing, or the failure of the listing. -/
def socketsFor (files : FileSystem) (root : ProcRoot) :
    Except Failure (List Descriptor) -> Except Failure (List Connection)
  | .ok descriptors => Ownership.correlate files root descriptors
  | .error failure => .error failure

def run (files : FileSystem) (root : ProcRoot) (pid : ProcessId) (options : InspectOptions) :
    Except Failure Report :=
  match Status.read files root pid with
  | .ok status =>
      let listing := Descriptor.enumerate files root pid
      let descriptors := asked options.wantsDescriptors listing
      match settle (asked true (socketsFor files root listing)) with
      | .ok sockets =>
          match settle (asked options.wantsThreads (Thread.enumerate files root pid)) with
          | .ok threads =>
              .ok
                { pid := pid
                  status := status
                  descriptors := value? descriptors
                  threads := value? threads
                  sockets := value? sockets
                  failures :=
                    ⟨(failure? descriptors).map Failure.report,
                      (failure? threads).map Failure.report,
                      (failure? sockets).map Failure.report⟩ }
          | .error failure => .error failure
      | .error failure => .error failure
  | .error failure => .error failure

end Inspection
end ProcInspection
