import ProcInspection.Proofs.CommandLine.Run

namespace ProcInspection

/-!
What a quiet run says.

Asking for quiet settles the level of the log, and no other setting can raise
it again.  The level however only counts where the general log variable holds
no filter: a filter there decides alone, and then a quiet run says what any
other run would say.
-/

namespace LogLevel

theorem lets_off (event : LogLevel) : lets .off event = false := by
  cases event <;> rfl

end LogLevel

namespace LogFilter

/-- A source that is off shows nothing, and neither does any other source. -/
theorem shows_only_off (source : String) (event : LogEvent) :
    (only source .off).shows event = false := by
  cases covered : LogDirective.covers ⟨source, none, none, .off⟩ event <;>
    simp [shows, threshold, only, covered, preferred, LogLevel.lets_off]

end LogFilter

namespace ExitCode

theorem ofFailure_ne_clean (failure : Failure) : ofFailure failure ≠ .clean := by
  cases failure <;> exact fun impossible => nomatch impossible

end ExitCode

namespace CommandLine

variable {readers : Readers} {files : FileSystem} {environment : Environment} {request : Request}

/-- The filter that the general variable holds, if its text is one. -/
def governing? (readers : Readers) (environment : Environment) : Option LogFilter :=
  (textVariable environment LogSettings.generalVariable).bind readers.filter?

theorem logFilter_of_ungoverned (ungoverned : governing? readers environment = none)
    (level : LogLevel) : logFilter readers environment level = .only ownSource level := by
  unfold governing? at ungoverned
  simp only [logFilter, ungoverned]

theorem logFilter_of_governed {filter : LogFilter}
    (governed : governing? readers environment = some filter) (level : LogLevel) :
    logFilter readers environment level = filter := by
  unfold governing? at governed
  simp only [logFilter, governed]

/-- Quiet has the last word on the level, whatever the variables say. -/
theorem level_of_quiet (environment : Environment) (quiet : request.quiet = true) :
    (logSettings environment request).level = .off := by
  unfold logSettings
  rw [if_pos quiet]
  rfl

/-! ## The messages of a run -/

/-- The events of a run in order.  There are none without a process number. -/
def eventsOf (request : Request) (environment : Environment) (files : FileSystem) : List LogEvent :=
  match ProcessId.parse request.pid with
  | .ok pid => Trace.ofInspection files (rootOf environment request) pid (optionsOf request)
  | .error _ => []

/-- What a run says: some lines of the log, and behind them its failure if it
does not end well. -/
inductive Speaks (format : OutputFormat) (logged : List Message) (outcome : Outcome) : Prop where
  | clean (ended : outcome.exit = .clean) (said : outcome.messages = logged)
  | failed (failure : Failure) (ended : outcome.exit ≠ .clean)
      (cause : outcome.exit = .ofFailure failure)
      (said : outcome.messages = logged ++ [failureMessage format failure])

theorem speaks_failed (format : OutputFormat) (output : Bytes) (logged : List Message)
    (failure : Failure) : Speaks format logged (failed format output logged failure) :=
  .failed failure (ExitCode.ofFailure_ne_clean failure) rfl rfl

/-- Every run says what its log shows of its events, and its failure. -/
theorem speaks_inspectRun (readers : Readers) (request : Request) (environment : Environment)
    (files : FileSystem) :
    Speaks request.format
      (logMessages readers environment request (eventsOf request environment files))
      (inspectRun readers request environment files) := by
  unfold inspectRun eventsOf
  cases ProcessId.parse request.pid with
  | error failure => exact speaks_failed request.format [] [] failure
  | ok pid =>
      simp only
      cases Inspection.run files (rootOf environment request) pid (optionsOf request) with
      | error failure => exact speaks_failed request.format [] _ failure
      | ok report =>
          simp only [Report.write_unlimited]
          exact .clean rfl rfl

theorem logMessages_of_off (off : (logSettings environment request).level = .off)
    (ungoverned : governing? readers environment = none) (events : List LogEvent) :
    logMessages readers environment request events = [] := by
  have silent : forall event, (LogFilter.only ownSource .off).shows event ≠ true := fun event =>
    Bool.eq_false_iff.mp (LogFilter.shows_only_off ownSource event)
  simp only [logMessages, off, logFilter_of_ungoverned ungoverned]
  rw [List.filter_eq_nil_iff.mpr fun event _ => silent event]
  rfl

theorem logMessages_of_governed {filter : LogFilter}
    (governed : governing? readers environment = some filter) (events : List LogEvent) :
    logMessages readers environment request events =
      (events.filter filter.shows).map (eventMessage (logSettings environment request).format) := by
  simp only [logMessages, logFilter_of_governed governed]

/-- A quiet run says nothing but its failure if the general variable holds no
filter.  If it holds one, the run says of its events what this filter shows.
Both hold whatever counts as a filter. -/
theorem quiet_silent_of_ungoverned (readers : Readers) (arguments : List Bytes)
    (environment : Environment) (files : FileSystem) (request : Request)
    (accepted : readers.invocation arguments = .ok (.inspect request))
    (quiet : request.quiet = true) :
    (governing? readers environment = none ->
      Speaks request.format [] (runWith readers arguments environment files)) ∧
      forall filter, governing? readers environment = some filter ->
        Speaks request.format
          (((eventsOf request environment files).filter filter.shows).map
            (eventMessage (logSettings environment request).format))
          (runWith readers arguments environment files) := by
  have spoken := speaks_inspectRun readers request environment files
  rw [runWith_of_inspect accepted]
  constructor
  · intro ungoverned
    rw [logMessages_of_off (level_of_quiet environment quiet) ungoverned] at spoken
    exact spoken
  · intro filter governed
    rw [logMessages_of_governed governed] at spoken
    exact spoken

namespace Sample

def quietArguments : List Bytes :=
  [Utf8.encode "-q", Utf8.encode "7"]

def quietRequest : Request :=
  ⟨"7", false, false, true, .human, none, none⟩

/-- The program's own variable asks for everything, and the general one holds
what is no filter. -/
def talkative : Environment := fun name =>
  if name = "PINSPECT_LOG" then some (Utf8.encode "trace")
  else if name = "RUST_LOG" then some (Utf8.encode "pinspect_core=loud")
  else none

def governed : Environment := fun name =>
  if name = "RUST_LOG" then some (Utf8.encode "debug") else none

end Sample

theorem quiet_silent_talkative :
    Readers.standard.invocation Sample.quietArguments = .ok (.inspect Sample.quietRequest) ∧
      Sample.quietRequest.quiet = true ∧ governing? .standard Sample.talkative = none ∧
      Speaks .human [] (run Sample.quietArguments Sample.talkative Sample.system) := by
  have accepted : Readers.standard.invocation Sample.quietArguments =
      .ok (.inspect Sample.quietRequest) := by decide +kernel
  have ungoverned : governing? .standard Sample.talkative = none := by decide +kernel
  exact ⟨accepted, rfl, ungoverned, (quiet_silent_of_ungoverned .standard Sample.quietArguments
    Sample.talkative Sample.system Sample.quietRequest accepted rfl).1 ungoverned⟩

/-- A filter in the general variable makes a quiet run talk, although nothing
failed. -/
theorem quiet_not_always_silent :
    ¬ forall (arguments : List Bytes) (environment : Environment) (files : FileSystem)
      (request : Request), Readers.standard.invocation arguments = .ok (.inspect request) ->
        request.quiet = true ->
          Speaks request.format [] (run arguments environment files) := by
  intro always
  have accepted : Readers.standard.invocation Sample.quietArguments =
      .ok (.inspect Sample.quietRequest) := by decide +kernel
  have ended : (run Sample.quietArguments Sample.governed Sample.system).exit = .clean := by
    decide +kernel
  have talks : (run Sample.quietArguments Sample.governed Sample.system).messages.isEmpty = false := by
    decide +kernel
  cases always Sample.quietArguments Sample.governed Sample.system Sample.quietRequest accepted rfl with
  | clean _ said =>
      rw [said] at talks
      cases talks
  | failed failure unclean => exact unclean ended

end CommandLine
end ProcInspection
