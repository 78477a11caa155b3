import ProcInspection.Proofs.CommandLine.Quiet
import ProcInspection.Proofs.Json.Compact
import ProcInspection.Proofs.Json.Reader

namespace ProcInspection

/-!
How a failed run tells its failure to a script.

A run that asks for documents and fails leaves one line beside the report, the
compact document of its failure.  Code, category, wording and advice are read
back from it whatever texts they hold, the process is named where the failure
is about one, and the category goes with the exit code.
-/

namespace CommandLine

/-- What a run leaves on standard error: every message ends its line. -/
def Outcome.errorText (outcome : Outcome) : List Char :=
  outcome.messages.flatMap fun message => message.text.toList ++ ['\n']

/-- A run whose report goes to any sink. -/
def inspectInto (readers : Readers) (sink : Sink) (request : Request) (environment : Environment)
    (files : FileSystem) : Outcome :=
  let logged := logMessages readers environment request (eventsOf request environment files)
  match ProcessId.parse request.pid with
  | .error failure => failed request.format sink.written logged failure
  | .ok pid =>
      match Inspection.run files (rootOf environment request) pid (optionsOf request) with
      | .error failure => failed request.format sink.written logged failure
      | .ok report =>
          let (after, result) := report.write sink request.format request.verbose
          match result with
          | .ok () => ⟨.clean, after.written, logged⟩
          | .error failure => failed request.format after.written logged failure

/-- How the report of a process is written. -/
def writeInto (sink : Sink) (request : Request) (environment : Environment) (files : FileSystem)
    (pid : ProcessId) : Except Failure Unit :=
  match Inspection.run files (rootOf environment request) pid (optionsOf request) with
  | .error _ => .ok ()
  | .ok report => (report.write sink request.format request.verbose).2

/-- The failures that end a run, by what was given for the process, how its
status file is read and how the report of it is written. -/
inductive FailsWith (given : String) (read : ProcessId -> Except IoFailure Bytes)
    (write : ProcessId -> Except Failure Unit) : Failure -> Prop where
  | rejected (rejected : ProcessId.parse? given = none) :
      FailsWith given read write (.invalidPid given)
  | missing {pid : ProcessId} {cause : IoFailure} (parsed : ProcessId.parse? given = some pid)
      (refused : read pid = .error cause) (kind : cause.kind = .notFound) :
      FailsWith given read write (.processNotFound pid)
  | denied {pid : ProcessId} {cause : IoFailure} (parsed : ProcessId.parse? given = some pid)
      (refused : read pid = .error cause) (kind : cause.kind = .permissionDenied) :
      FailsWith given read write (.permissionDenied pid)
  | unread {pid : ProcessId} {cause : IoFailure} (parsed : ProcessId.parse? given = some pid)
      (refused : read pid = .error cause) (there : cause.kind ≠ .notFound)
      (allowed : cause.kind ≠ .permissionDenied) :
      FailsWith given read write (.io cause)
  | unwritten {pid : ProcessId} {cause : IoFailure} (parsed : ProcessId.parse? given = some pid)
      (refused : write pid = .error (.io cause)) : FailsWith given read write (.io cause)
  | undocumented {pid : ProcessId} {detail : String} (parsed : ProcessId.parse? given = some pid)
      (refused : write pid = .error (.json detail)) : FailsWith given read write (.json detail)

/-- The process that a failure is about. -/
def namedProcess : Failure -> Option ProcessId
  | .processNotFound pid => some pid
  | .permissionDenied pid => some pid
  | _ => none

/-- A document holds what there is to say about a failure, and nothing else. -/
structure Tells (document : Json) (failure : Failure) : Prop where
  fields : Exists fun fields : List (String × Json) => document = .object fields ∧
    fields.map Prod.fst = ["code", "category", "message", "recoverable"] ++
      ((namedProcess failure).map fun _ => "context").toList
  code : document.field? "code" Json.number? = some failure.code
  category : document.field? "category" Json.text? = some failure.category.name
  message : document.field? "message" Json.text? = some failure.message
  recoverable : document.field? "recoverable" Json.truth? = some failure.recoverable
  context : document.find? "context" =
    (namedProcess failure).map fun pid => .object [("pid", .number pid.number.toNat)]

/-- The exit code that goes with a category. -/
def categoryCodes : List (String × Nat) :=
  [("args", 1), ("not_found", 2), ("permission_denied", 3), ("io", 5)]

/-- All that is left on standard error is one line, and the line is the text of
one document, which tells the failure. -/
structure ToldOnOneLine (outcome : Outcome) (failure : Failure) : Prop where
  line : Exists fun line : List Char => Exists fun document : Json =>
    outcome.errorText = line ++ ['\n'] ∧ '\n' ∉ line ∧
      (forall other rest, Json.Reads .value other line rest <-> other = document ∧ rest = []) ∧
      Tells document failure
  code : categoryCodes.lookup failure.category.name = some outcome.exit.number

variable {given : String} {read : ProcessId -> Except IoFailure Bytes}
  {write : ProcessId -> Except Failure Unit} {failure : Failure}
  {readers : Readers} {files : FileSystem} {environment : Environment} {request : Request}

/-- Only the failure of a table names something else than a process. -/
theorem FailsWith.context (fails : FailsWith given read write failure) :
    failure.context = (namedProcess failure).map fun pid => .pid pid.number := by
  cases fails <;> rfl

theorem FailsWith.code (fails : FailsWith given read write failure) :
    categoryCodes.lookup failure.category.name = some (ExitCode.ofFailure failure).number := by
  cases fails <;> rfl

/-- The document of a failure that names a process or nothing. -/
theorem tells_report
    (about : failure.context = (namedProcess failure).map fun pid => .pid pid.number) :
    Tells failure.report.json failure := by
  have written : failure.report.json = .object
      ([("code", .number failure.code), ("category", .text failure.category.name),
        ("message", .text failure.message), ("recoverable", .boolean failure.recoverable)] ++
        Json.optionalField "context"
          ((namedProcess failure).map fun pid => .object [("pid", .number pid.number.toNat)])) := by
    simp only [FailureReport.json, Failure.report, about, Option.map_map]
    rfl
  rw [written]
  constructor
  · refine ⟨_, rfl, ?_⟩
    cases namedProcess failure <;> rfl
  · simp [Json.field?]
  · simp [Json.field?, List.lookup_cons]
  · simp [Json.field?, List.lookup_cons]
  · simp [Json.field?, List.lookup_cons]
  · simp [List.lookup_cons, Json.lookup_optionalField]

/-- A failure without messages in front of it is told on one line. -/
theorem FailsWith.told (fails : FailsWith given read write failure) (output : Bytes) :
    ToldOnOneLine (failed .json output [] failure) failure where
  line := by
    refine ⟨failure.report.json.compact, failure.report.json, ?_,
      Json.newline_not_mem_compact _, Json.reads_compact_iff _, tells_report fails.context⟩
    simp [Outcome.errorText, failed, failureMessage, Message.text, Json.compactText]
  code := fails.code

/-! ## The failure of a run -/

theorem inspectRun_eq_inspectInto (readers : Readers) (request : Request)
    (environment : Environment) (files : FileSystem) :
    inspectRun readers request environment files =
      inspectInto readers .unlimited request environment files := by
  unfold inspectRun inspectInto eventsOf
  cases parsed : ProcessId.parse request.pid with
  | error failure => rfl
  | ok pid => rfl

theorem failsWith_of_reports {pid : ProcessId} {cause : IoFailure}
    (parsed : ProcessId.parse? given = some pid) (refused : read pid = .error cause)
    (reports : Failure.Reports pid cause failure) : FailsWith given read write failure := by
  cases reports with
  | absent kind => exact .missing parsed refused kind
  | denied kind => exact .denied parsed refused kind
  | passedOn found allowed => exact .unread parsed refused found allowed

theorem failsWith_of_write {pid : ProcessId} {report : Report} {sink : Sink}
    {format : OutputFormat} {verbose : Bool} (parsed : ProcessId.parse? given = some pid)
    (written : write pid = (report.write sink format verbose).2) (refused : write pid = .error failure) :
    FailsWith given read write failure := by
  rcases Report.exists_of_write_error (written.symm.trans refused) with ⟨cause, rfl⟩ | ⟨detail, rfl⟩
  · exact .unwritten parsed refused
  · exact .undocumented parsed refused

/-- A run that does not end well says what its log shows, and then what failed. -/
theorem exists_failure (sink : Sink)
    (unclean : (inspectInto readers sink request environment files).exit.number ≠ 0) :
    Exists fun failure : Failure =>
      FailsWith request.pid
        (fun pid => files.read ((rootOf environment request).statusFile pid))
        (writeInto sink request environment files) failure ∧
      Exists fun output : Bytes =>
        inspectInto readers sink request environment files =
          failed request.format output
            (logMessages readers environment request (eventsOf request environment files))
            failure := by
  unfold inspectInto at unclean ⊢
  cases parsed : ProcessId.parse? request.pid with
  | none =>
      rw [ProcessId.parse_of_rejected parsed]
      exact ⟨_, .rejected parsed, _, rfl⟩
  | some pid =>
      rw [ProcessId.parse_of_parse? parsed] at unclean ⊢
      cases read : files.read ((rootOf environment request).statusFile pid) with
      | error cause =>
          simp only [Inspection.run_of_refused (optionsOf request) read]
          exact ⟨_, failsWith_of_reports parsed read (Failure.reports_ofProcessRead pid cause), _, rfl⟩
      | ok content =>
          rcases Inspection.exists_report (optionsOf request) read with ⟨report, ran⟩
          have written : writeInto sink request environment files pid =
              (report.write sink request.format request.verbose).2 := by
            unfold writeInto
            rw [ran]
          simp only [ran] at unclean ⊢
          cases ended : (report.write sink request.format request.verbose).2 with
          | ok done =>
              simp only [ended] at unclean
              exact (unclean rfl).elim
          | error failure =>
              exact ⟨failure, failsWith_of_write parsed written (written.trans ended), _, rfl⟩

/-- A failed run that was asked for a document, and whose log shows nothing,
leaves exactly one line on standard error: the document of what failed, with
the process where it is about one and the category that goes with the exit
code.  A process number that is refused is repeated as it was given.  The line
is of this kind wherever the report goes, however the arguments are read and
however the status file fails to be read. -/
theorem failure_told_on_one_line (readers : Readers) (arguments : List Bytes)
    (environment : Environment) (files : FileSystem) (request : Request) (sink : Sink)
    (accepted : readers.invocation arguments = .ok (.inspect request))
    (asked : request.format = .json)
    (silent : logMessages readers environment request (eventsOf request environment files) = [])
    (unclean : (inspectInto readers sink request environment files).exit.number ≠ 0) :
    runWith readers arguments environment files =
      inspectInto readers .unlimited request environment files ∧
    (Exists fun failure : Failure =>
      FailsWith request.pid
        (fun pid => files.read ((rootOf environment request).statusFile pid))
        (writeInto sink request environment files) failure ∧
      ToldOnOneLine (inspectInto readers sink request environment files) failure) ∧
    (ProcessId.parse? request.pid = none ->
      Exists fun line : List Char => Exists fun document : Json =>
        (inspectInto readers sink request environment files).errorText = line ++ ['\n'] ∧
        Json.Reads .value document line [] ∧
        document.field? "message" Json.text? = some ("invalid PID: " ++ request.pid)) ∧
    forall (read : ProcessId -> Except IoFailure Bytes) (write : ProcessId -> Except Failure Unit)
      (failure : Failure), FailsWith request.pid read write failure ->
        forall output, ToldOnOneLine (failed .json output [] failure) failure := by
  rcases exists_failure sink unclean with ⟨failure, fails, output, ended⟩
  rw [silent, asked] at ended
  have told := fails.told output
  rw [← ended] at told
  have ran : runWith readers arguments environment files =
      inspectInto readers .unlimited request environment files := by
    rw [runWith_of_inspect accepted]
    exact inspectRun_eq_inspectInto readers request environment files
  refine ⟨ran, ⟨failure, fails, told⟩, ?_, fun read write failure fails => fails.told⟩
  intro rejected
  rcases told.line with ⟨line, document, written, _, reading, tells⟩
  refine ⟨line, document, written, (reading _ _).mpr ⟨rfl, rfl⟩, ?_⟩
  cases fails with
  | rejected => exact tells.message
  | missing parsed => cases rejected.symm.trans parsed
  | denied parsed => cases rejected.symm.trans parsed
  | unread parsed => cases rejected.symm.trans parsed
  | unwritten parsed => cases rejected.symm.trans parsed
  | undocumented parsed => cases rejected.symm.trans parsed

namespace Sample

/-- A number behind which a quote and an end of line were given. -/
def brokenText : String := "7\"\n"

def brokenArguments : List Bytes :=
  [Utf8.encode "-qfjson", Utf8.encode brokenText]

def brokenRequest : Request :=
  ⟨brokenText, false, false, true, .json, none, none⟩

end Sample

theorem failure_told_of_broken_text :
    Readers.standard.invocation Sample.brokenArguments = .ok (.inspect Sample.brokenRequest) ∧
      Sample.brokenRequest.format = .json ∧
      logMessages .standard Sample.talkative Sample.brokenRequest
        (eventsOf Sample.brokenRequest Sample.talkative Sample.system) = [] ∧
      (run Sample.brokenArguments Sample.talkative Sample.system).exit.number ≠ 0 ∧
      Exists fun line : List Char => Exists fun document : Json =>
        (run Sample.brokenArguments Sample.talkative Sample.system).errorText = line ++ ['\n'] ∧
        Json.Reads .value document line [] ∧
        document.field? "message" Json.text? = some "invalid PID: 7\"\n" := by
  have accepted : Readers.standard.invocation Sample.brokenArguments =
      .ok (.inspect Sample.brokenRequest) := by decide +kernel
  have ungoverned : governing? .standard Sample.talkative = none := by decide +kernel
  have quiet : Sample.brokenRequest.quiet = true := rfl
  have silent := logMessages_of_off (level_of_quiet Sample.talkative quiet) ungoverned
    (eventsOf Sample.brokenRequest Sample.talkative Sample.system)
  have unclean : (inspectInto .standard .unlimited Sample.brokenRequest Sample.talkative
      Sample.system).exit.number ≠ 0 := by decide +kernel
  have rejected : ProcessId.parse? Sample.brokenText = none := by decide +kernel
  have told := failure_told_on_one_line .standard Sample.brokenArguments Sample.talkative
    Sample.system Sample.brokenRequest .unlimited accepted rfl silent unclean
  rw [run, told.1]
  exact ⟨accepted, rfl, silent, unclean, told.2.2.1 rejected⟩

end CommandLine
end ProcInspection
