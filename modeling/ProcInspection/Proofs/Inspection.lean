import ProcInspection.Inspection
import ProcInspection.Proofs.Ownership
import ProcInspection.Proofs.Task.Thread

namespace ProcInspection

/-!
What a report says of each section.

An inspection reads the listing of the descriptors once and uses it twice.  The
report is nevertheless the one that reading every section on its own would
give: a section that was asked for has either its value or its failure, one
that was not asked for has neither, and no choice of sections touches the
sockets.  No section runs out of memory here, so only the status file can end
an inspection.
-/

namespace Inspection

variable {α : Type} {files : FileSystem} {root : ProcRoot} {pid : ProcessId}

/-! ## Sections do not run out of memory -/

theorem threads_category {failure : Failure}
    (failed : Thread.enumerate files root pid = .error failure) :
    failure.category ≠ .resourceExhausted := by
  rcases Thread.enumerate_eq_error_iff.mp failed with ⟨cause, _, reports⟩
  exact reports.category

theorem sockets_category {failure : Failure}
    (failed : Ownership.socketsOf files root pid = .error failure) :
    failure.category ≠ .resourceExhausted := by
  rcases Ownership.exists_verdict files root pid with ⟨result, verdict⟩
  rw [Ownership.eq_of_verdict verdict] at failed
  rw [failed] at verdict
  cases verdict <;> exact fun impossible => nomatch impossible

/-- A section that cannot run out of memory is settled as it is. -/
theorem settle_asked {result : Except Failure α}
    (spared : forall failure, result = .error failure -> failure.category ≠ .resourceExhausted)
    (wanted : Bool) : settle (asked wanted result) = .ok (asked wanted result) := by
  cases wanted with
  | false => rfl
  | true =>
      cases result with
      | ok value => rfl
      | error failure =>
          change (if failure.category = .resourceExhausted then _ else _) = _
          rw [if_neg (spared failure rfl)]

/-- Looking up the sockets of the listing is looking up those of the process. -/
theorem socketsFor_enumerate (files : FileSystem) (root : ProcRoot) (pid : ProcessId) :
    socketsFor files root (Descriptor.enumerate files root pid) =
      Ownership.socketsOf files root pid := by
  unfold Ownership.socketsOf
  cases Descriptor.enumerate files root pid <;> rfl

/-! ## Sections in a report -/

/-- What a report holds of a section: its value or its failure if it was asked
for, and neither if it was not. -/
inductive Recorded : Bool -> Except Failure α -> Option α -> Option FailureReport -> Prop where
  | value (value : α) : Recorded true (.ok value) (some value) none
  | failure (failure : Failure) : Recorded true (.error failure) none (some failure.report)
  | unasked (result : Except Failure α) : Recorded false result none none

theorem recorded_asked (wanted : Bool) (result : Except Failure α) :
    Recorded wanted result (value? (asked wanted result))
      ((failure? (asked wanted result)).map Failure.report) := by
  cases wanted with
  | false => exact .unasked result
  | true =>
      cases result with
      | ok value => exact .value value
      | error failure => exact .failure failure

/-- A section has one record only. -/
theorem recorded_unique {wanted : Bool} {result : Except Failure α} {value other : Option α}
    {failure otherFailure : Option FailureReport} (first : Recorded wanted result value failure)
    (second : Recorded wanted result other otherFailure) :
    value = other ∧ failure = otherFailure := by
  cases first <;> cases second <;> exact ⟨rfl, rfl⟩

theorem Recorded.eq_ok {wanted : Bool} {result : Except Failure α} {value : α}
    {failure : Option FailureReport} (recorded : Recorded wanted result (some value) failure) :
    result = .ok value := by
  cases recorded with
  | value => rfl

/-- The report that reading every section on its own gives. -/
structure Gathered (files : FileSystem) (root : ProcRoot) (pid : ProcessId) (options : InspectOptions)
    (report : Report) : Prop where
  process : report.pid = pid
  status : Status.read files root pid = .ok report.status
  descriptors : Recorded (!options.networkOnly) (Descriptor.enumerate files root pid)
    report.descriptors report.failures.descriptors
  threads : Recorded (options.threads && !options.networkOnly) (Thread.enumerate files root pid)
    report.threads report.failures.threads
  sockets : Recorded true (Ownership.socketsOf files root pid) report.sockets report.failures.sockets

theorem Gathered.unique {options : InspectOptions} {report other : Report}
    (first : Gathered files root pid options report)
    (second : Gathered files root pid options other) : report = other := by
  have status : report.status = other.status :=
    Except.ok.inj (first.status.symm.trans second.status)
  have descriptors := recorded_unique first.descriptors second.descriptors
  have threads := recorded_unique first.threads second.threads
  have sockets := recorded_unique first.sockets second.sockets
  rcases report with ⟨_, _, _, _, _, ⟨_, _, _⟩⟩
  rcases other with ⟨_, _, _, _, _, ⟨_, _, _⟩⟩
  simp only at status descriptors threads sockets
  rw [Report.mk.injEq, SectionFailures.mk.injEq]
  exact ⟨first.process.trans second.process.symm, status, descriptors.1, threads.1, sockets.1,
    descriptors.2, threads.2, sockets.2⟩

theorem run_of_unread {failure : Failure} (options : InspectOptions)
    (unread : Status.read files root pid = .error failure) :
    run files root pid options = .error failure := by
  unfold run
  rw [unread]

/-- With a readable status file there is a report, and it is the gathered one. -/
theorem exists_gathered {status : Status} (options : InspectOptions)
    (read : Status.read files root pid = .ok status) :
    Exists fun report : Report =>
      run files root pid options = .ok report ∧ Gathered files root pid options report := by
  have sockets : settle (asked true (Ownership.socketsOf files root pid)) =
      .ok (asked true (Ownership.socketsOf files root pid)) :=
    settle_asked (fun _ => sockets_category) true
  have threads : settle (asked options.wantsThreads (Thread.enumerate files root pid)) =
      .ok (asked options.wantsThreads (Thread.enumerate files root pid)) :=
    settle_asked (fun _ => threads_category) options.wantsThreads
  unfold run
  rw [read]
  simp only [socketsFor_enumerate, sockets, threads]
  refine ⟨_, rfl, rfl, read, recorded_asked _ _, recorded_asked _ _, ?_⟩
  -- The report's field is opened first, so that nothing is looked up to compare it.
  dsimp only
  exact recorded_asked true (Ownership.socketsOf files root pid)

/-- A status file that is refused ends the inspection, and says why. -/
theorem run_of_refused {cause : IoFailure} (options : InspectOptions)
    (refused : files.read (root.statusFile pid) = .error cause) :
    run files root pid options = .error (.ofProcessRead pid cause) := by
  apply run_of_unread
  unfold Status.read
  rw [refused]

/-- No other file is needed for a report. -/
theorem exists_report {content : Bytes} (options : InspectOptions)
    (read : files.read (root.statusFile pid) = .ok content) :
    Exists fun report : Report => run files root pid options = .ok report := by
  have status : Status.read files root pid = .ok (.parse pid content) := by
    unfold Status.read
    rw [read]
  rcases exists_gathered options status with ⟨report, ran, _⟩
  exact ⟨report, ran⟩

theorem run_eq_ok_iff (options : InspectOptions) (report : Report) :
    run files root pid options = .ok report <-> Gathered files root pid options report := by
  constructor
  · intro ran
    cases read : Status.read files root pid with
    | error failure =>
        rw [run_of_unread options read] at ran
        cases ran
    | ok status =>
        rcases exists_gathered options read with ⟨other, made, gathered⟩
        rw [Except.ok.inj (ran.symm.trans made)]
        exact gathered
  · intro gathered
    rcases exists_gathered options gathered.status with ⟨other, made, others⟩
    rw [made, gathered.unique others]

theorem run_eq_error_iff (options : InspectOptions) (failure : Failure) :
    run files root pid options = .error failure <->
      Status.read files root pid = .error failure := by
  constructor
  · intro ran
    cases read : Status.read files root pid with
    | error other =>
        rw [run_of_unread options read] at ran
        rw [Except.error.inj ran]
    | ok status =>
        rcases exists_gathered options read with ⟨report, made, _⟩
        rw [made] at ran
        cases ran
  · exact run_of_unread options

/-- An inspection refines its collectors.  It fails exactly as the status does,
and otherwise gives the gathered report, with the same sockets whatever else is
asked for, and one failure in both sections when the listing fails. -/
theorem run_refines_collectors (files : FileSystem) (root : ProcRoot) (pid : ProcessId)
    (options : InspectOptions) :
    (forall failure, run files root pid options = .error failure <->
      Status.read files root pid = .error failure) ∧
    (forall report, run files root pid options = .ok report <->
      Gathered files root pid options report) ∧
    (forall others report other, run files root pid options = .ok report ->
      run files root pid others = .ok other ->
        report.sockets = other.sockets ∧ report.failures.sockets = other.failures.sockets) ∧
    forall failure report, Descriptor.enumerate files root pid = .error failure ->
      options.networkOnly = false -> run files root pid options = .ok report ->
        report.failures.descriptors = some failure.report ∧
          report.failures.sockets = some failure.report := by
  refine ⟨run_eq_error_iff options, run_eq_ok_iff options, ?_, ?_⟩
  · intro others report other ran otherRan
    exact recorded_unique ((run_eq_ok_iff options report).mp ran).sockets
      ((run_eq_ok_iff others other).mp otherRan).sockets
  · intro failure report failed full ran
    have gathered := (run_eq_ok_iff options report).mp ran
    have sockets : Ownership.socketsOf files root pid = .error failure := by
      unfold Ownership.socketsOf
      rw [failed]
    have first := gathered.descriptors
    have second := gathered.sockets
    rw [failed, full] at first
    rw [sockets] at second
    exact ⟨(recorded_unique first (.failure failure)).2, (recorded_unique second (.failure failure)).2⟩

end Inspection
end ProcInspection
