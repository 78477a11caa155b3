import ProcInspection.CommandLine.Run
import ProcInspection.Proofs.Inspection
import ProcInspection.Proofs.Report.Write
import ProcInspection.Proofs.Task.Id

namespace ProcInspection

/-!
How a run ends.

Of all that a run reads, one read decides how it ends: that of the status file
of the process.  Every other failure is told in the report, which is then
written in full; without a report nothing is written.  The form of the report
has no say in the exit code, and neither has the log.  All this holds however the
arguments are read.
-/

namespace CommandLine

section Ends

variable {readers : Readers} {files : FileSystem} {environment : Environment} {request : Request}
  {pid : ProcessId}

/-- The first path that is given and is not empty. -/
def firstGiven : List (Option Path) -> Option Path
  | [] => none
  | none :: rest => firstGiven rest
  | some path :: rest => if path.bytes = [] then firstGiven rest else some path

theorem firstGiven_cons (path : Option Path) (rest : List (Option Path)) :
    firstGiven (path :: rest) = (RootChoice.given? path).or (firstGiven rest) := by
  cases path with
  | none => rfl
  | some path =>
      rw [firstGiven, RootChoice.given?]
      by_cases empty : path.bytes = []
      · rw [if_pos empty, if_pos (List.isEmpty_iff.mpr empty), Option.none_or]
      · rw [if_neg empty, if_neg fun blank => empty (List.isEmpty_iff.mp blank), Option.some_or]

/-- The command line is asked for the root, then the environment. -/
theorem firstGiven_root (environment : Environment) (request : Request) :
    firstGiven [request.procRoot, (environment "PINSPECT_PROC_ROOT").map Path.mk,
      some (Path.ofText "/proc")] = some (rootOf environment request).path := by
  have last : firstGiven [some (Path.ofText "/proc")] = some ProcRoot.standard.path := rfl
  rw [firstGiven_cons, firstGiven_cons, last]
  unfold rootOf rootVariable RootChoice.resolve
  cases RootChoice.given? request.procRoot with
  | some path => rfl
  | none =>
      cases RootChoice.given? ((environment "PINSPECT_PROC_ROOT").map Path.mk) with
      | some path => rfl
      | none => rfl

/-! ## The end of an inspection -/

/-- The exit code that the cause of a failed read of the status file leads to. -/
def codeOf (kind : IoKind) : Nat :=
  match kind with
  | .notFound => 2
  | .permissionDenied => 3
  | _ => 5

theorem number_ofProcessRead (pid : ProcessId) (cause : IoFailure) :
    (ExitCode.ofFailure (.ofProcessRead pid cause)).number = codeOf cause.kind := by
  unfold Failure.ofProcessRead codeOf
  cases cause.kind <;> rfl

/-- The exit code of a run and what it writes, by what decides them. -/
inductive Ends (files : FileSystem) (root : ProcRoot) (request : Request) : Nat -> Bytes -> Prop where
  | rejected (rejected : ProcessId.parse? request.pid = none) : Ends files root request 1 []
  | reported {pid : ProcessId} {content : Bytes} {report : Report}
      (parsed : ProcessId.parse? request.pid = some pid)
      (read : files.read (root.statusFile pid) = .ok content)
      (ran : Inspection.run files root pid (optionsOf request) = .ok report) :
      Ends files root request 0 (report.fullText request.format request.verbose)
  | unread {pid : ProcessId} {cause : IoFailure}
      (parsed : ProcessId.parse? request.pid = some pid)
      (refused : files.read (root.statusFile pid) = .error cause) :
      Ends files root request (codeOf cause.kind) []

/-- Arguments that ask for an inspection are followed by one. -/
theorem runWith_of_inspect {arguments : List Bytes}
    (accepted : readers.invocation arguments = .ok (.inspect request)) :
    runWith readers arguments environment files = inspectRun readers request environment files := by
  unfold runWith
  rw [accepted]

theorem inspectRun_of_rejected (rejected : ProcessId.parse? request.pid = none) :
    inspectRun readers request environment files =
      failed request.format [] [] (.invalidPid request.pid) := by
  unfold inspectRun
  rw [ProcessId.parse_of_rejected rejected]

theorem inspectRun_of_failure {failure : Failure}
    (parsed : ProcessId.parse? request.pid = some pid)
    (ran : Inspection.run files (rootOf environment request) pid (optionsOf request) =
      .error failure) :
    Exists fun messages : List Message =>
      inspectRun readers request environment files = failed request.format [] messages failure := by
  unfold inspectRun
  rw [ProcessId.parse_of_parse? parsed]
  simp only [ran]
  exact ⟨_, rfl⟩

theorem inspectRun_of_report {report : Report}
    (parsed : ProcessId.parse? request.pid = some pid)
    (ran : Inspection.run files (rootOf environment request) pid (optionsOf request) = .ok report) :
    Exists fun messages : List Message =>
      inspectRun readers request environment files =
        ⟨.clean, report.fullText request.format request.verbose, messages⟩ := by
  unfold inspectRun
  rw [ProcessId.parse_of_parse? parsed]
  simp only [ran, Report.write_unlimited]
  exact ⟨_, rfl⟩

theorem ends_inspectRun (readers : Readers) (files : FileSystem) (environment : Environment)
    (request : Request) :
    Ends files (rootOf environment request) request
      (inspectRun readers request environment files).exit.number
      (inspectRun readers request environment files).output := by
  cases parsed : ProcessId.parse? request.pid with
  | none =>
      rw [inspectRun_of_rejected parsed]
      exact .rejected parsed
  | some pid =>
      cases read : files.read ((rootOf environment request).statusFile pid) with
      | error cause =>
          rcases inspectRun_of_failure parsed (Inspection.run_of_refused (optionsOf request) read)
            with ⟨messages, ended⟩
          rw [ended]
          change Ends _ _ _ (ExitCode.ofFailure (.ofProcessRead pid cause)).number []
          rw [number_ofProcessRead]
          exact .unread parsed read
      | ok content =>
          rcases Inspection.exists_report (optionsOf request) read with ⟨report, ran⟩
          rcases inspectRun_of_report parsed ran with ⟨messages, ended⟩
          rw [ended]
          exact .reported parsed read ran

/-- Memory does not run out here. -/
theorem Ends.ne_four {root : ProcRoot} {code : Nat} {output : Bytes}
    (ends : Ends files root request code output) : code ≠ 4 := by
  cases ends with
  | rejected rejected => decide
  | reported parsed read ran => decide
  | @unread pid cause parsed refused =>
      unfold codeOf
      cases cause.kind <;> decide

/-- One outcome of the status file makes one exit code, whatever else is asked
for or goes wrong. -/
theorem Ends.code_unique {root : ProcRoot} {otherFiles : FileSystem} {other : Request}
    {code otherCode : Nat} {output otherOutput : Bytes}
    (ends : Ends files root request code output)
    (also : Ends otherFiles root other otherCode otherOutput) (samePid : other.pid = request.pid)
    (sameRead : forall pid, ProcessId.parse? request.pid = some pid ->
      otherFiles.read (root.statusFile pid) = files.read (root.statusFile pid)) :
    otherCode = code := by
  have parsedToo : ProcessId.parse? other.pid = ProcessId.parse? request.pid := by rw [samePid]
  cases ends with
  | rejected rejected =>
      rw [rejected] at parsedToo
      cases also with
      | rejected => rfl
      | reported parsed => cases parsedToo.symm.trans parsed
      | unread parsed => cases parsedToo.symm.trans parsed
  | reported parsed read =>
      rw [parsed] at parsedToo
      cases also with
      | rejected rejected => cases parsedToo.symm.trans rejected
      | reported => rfl
      | unread parsedOther refused =>
          cases Option.some.inj (parsedToo.symm.trans parsedOther)
          cases (refused.symm.trans (sameRead _ parsed)).trans read
  | unread parsed refused =>
      rw [parsed] at parsedToo
      cases also with
      | rejected rejected => cases parsedToo.symm.trans rejected
      | reported parsedOther read =>
          cases Option.some.inj (parsedToo.symm.trans parsedOther)
          cases (read.symm.trans (sameRead _ parsed)).trans refused
      | unread parsedOther refusedOther =>
          cases Option.some.inj (parsedToo.symm.trans parsedOther)
          rw [Except.error.inj ((refusedOther.symm.trans (sameRead _ parsed)).trans refused)]

/-- The end of a run is decided by the process number and the status file,
however arguments and filters are read.  The root is the first path given for
it.  The exit code is that of the one read, and is never the one of exhausted
memory; the report is written in full or not at all.  So two runs for one
process, one root and one status file end alike, whatever else differs between
them. -/
theorem run_decided_by_status (readers : Readers) (arguments : List Bytes)
    (environment : Environment) (files : FileSystem) (request : Request)
    (accepted : readers.invocation arguments = .ok (.inspect request)) :
    firstGiven [request.procRoot, (environment "PINSPECT_PROC_ROOT").map Path.mk,
      some (Path.ofText "/proc")] = some (rootOf environment request).path ∧
    Ends files (rootOf environment request) request
      (runWith readers arguments environment files).exit.number
      (runWith readers arguments environment files).output ∧
    (runWith readers arguments environment files).exit.number ≠ 4 ∧
    forall others otherEnvironment otherFiles other,
      readers.invocation others = .ok (.inspect other) ->
      other.pid = request.pid -> rootOf otherEnvironment other = rootOf environment request ->
        (forall pid, ProcessId.parse? request.pid = some pid ->
          otherFiles.read ((rootOf environment request).statusFile pid) =
            files.read ((rootOf environment request).statusFile pid)) ->
          (runWith readers others otherEnvironment otherFiles).exit.number =
            (runWith readers arguments environment files).exit.number := by
  rw [runWith_of_inspect accepted]
  have ends := ends_inspectRun readers files environment request
  refine ⟨firstGiven_root environment request, ends, ends.ne_four, ?_⟩
  intro others otherEnvironment otherFiles other acceptedToo samePid sameRoot sameRead
  rw [runWith_of_inspect acceptedToo]
  have also := ends_inspectRun readers otherFiles otherEnvironment other
  rw [sameRoot] at also
  exact ends.code_unique also samePid sameRead

end Ends

namespace Sample

/-- A process of which nothing can be read but the status. -/
def system : FileSystem where
  tree := .directory
      [(Utf8.encode "proc", .directory
        [(Utf8.encode "7", .directory
          [(Utf8.encode "status", .file (Utf8.encode "Name:\tx\n") false),
            (Utf8.encode "fd", .directory [] .closed)] .free)] .free)]
      .free
  working := none

def arguments : List Bytes :=
  [Utf8.encode "-vfjson", Utf8.encode "7"]

def request : Request :=
  ⟨"7", true, false, false, .json, none, none⟩

def environment : Environment :=
  fun _ => none

end Sample

theorem run_sample :
    Readers.standard.invocation Sample.arguments = .ok (.inspect Sample.request) ∧
      Sample.system.read (ProcRoot.standard.statusFile ⟨7⟩) = .ok (Utf8.encode "Name:\tx\n") ∧
      Ends Sample.system ProcRoot.standard Sample.request
        (run Sample.arguments Sample.environment Sample.system).exit.number
        (run Sample.arguments Sample.environment Sample.system).output := by
  have accepted : Readers.standard.invocation Sample.arguments = .ok (.inspect Sample.request) := by
    decide +kernel
  have contract := run_decided_by_status .standard Sample.arguments Sample.environment
    Sample.system Sample.request accepted
  exact ⟨accepted, rfl, contract.2.1⟩

end CommandLine
end ProcInspection
