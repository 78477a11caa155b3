import ProcInspection.CommandLine.Arguments
import ProcInspection.CommandLine.Help
import ProcInspection.ExitCode
import ProcInspection.Inspection.Trace
import ProcInspection.Log.Filter
import ProcInspection.Log.Line
import ProcInspection.Log.Settings
import ProcInspection.Report.Write
import ProcInspection.RootChoice

namespace ProcInspection
namespace CommandLine

/-!
A run of the command.

A run is a function of the arguments, the environment and the files.  It yields
the exit code, the bytes of the report and the messages beside it: the log
events that are shown, and then the failure if there is one.  The failure takes
the format that was asked for the report.

How arguments and log filters are read is not the program's own business: it
takes both from libraries, and a run is one for any two readers.
-/

/-- The readers that are taken from elsewhere: of the arguments, and of the text
of a log filter. -/
structure Readers where
  invocation : List Bytes -> Except UsageError Invocation
  filter? : String -> Option LogFilter

/-- The readers of the command. -/
def Readers.standard : Readers :=
  ⟨parse, LogFilter.ofText?⟩

/-- The variables that are set, each with its bytes. -/
abbrev Environment := String -> Option Bytes

/-- A message beside the report: a usage error, lines of text, or a log event
as a document. -/
inductive Message where
  | usage (problem : UsageError)
  | lines (text : String)
  | event (document : Json)

def Message.text : Message -> String
  | .usage problem => "error: " ++ problem.message
  | .lines text => text
  | .event document => document.compactText

structure Outcome where
  exit : ExitCode
  output : Bytes
  messages : List Message

/-- The value of a variable that holds text. -/
def textVariable (environment : Environment) (name : String) : Option String :=
  (environment name).bind Utf8.decode?

def rootVariable : String := "PINSPECT_PROC_ROOT"

/-- The name that the program's own log sources start with. -/
def ownSource : String := "pinspect_core"

/-- The general log variable decides alone if it is a filter.  Otherwise the
program's own sources are shown at the level that was settled. -/
def logFilter (readers : Readers) (environment : Environment) (level : LogLevel) : LogFilter :=
  match (textVariable environment LogSettings.generalVariable).bind readers.filter? with
  | some filter => filter
  | none => .only ownSource level

def logSettings (environment : Environment) (request : Request) : LogSettings :=
  .resolve (textVariable environment) (if request.quiet then some .off else none)
    request.logFormat

def eventMessage (format : LogFormat) (event : LogEvent) : Message :=
  match format with
  | .human => .lines event.humanLine
  | .jsonl => .event event.json

/-- The messages for the events that the log shows. -/
def logMessages (readers : Readers) (environment : Environment) (request : Request)
    (events : List LogEvent) : List Message :=
  let settings := logSettings environment request
  let filter := logFilter readers environment settings.level
  (events.filter filter.shows).map (eventMessage settings.format)

def failureMessage (format : OutputFormat) (failure : Failure) : Message :=
  match format with
  | .human => .lines (failure.humanText false)
  | .json => .lines failure.report.json.compactText

/-- A run that ends with a failure. -/
def failed (format : OutputFormat) (output : Bytes) (messages : List Message)
    (failure : Failure) : Outcome :=
  ⟨.ofFailure failure, output, messages ++ [failureMessage format failure]⟩

def rootOf (environment : Environment) (request : Request) : ProcRoot :=
  (RootChoice.resolve request.procRoot ((environment rootVariable).map Path.mk)).root

/-- Threads are read where they are shown: in tables and in documents. -/
def optionsOf (request : Request) : InspectOptions :=
  ⟨request.network, request.verbose || request.format = .json⟩

def inspectRun (readers : Readers) (request : Request) (environment : Environment)
    (files : FileSystem) : Outcome :=
  match ProcessId.parse request.pid with
  | .error failure => failed request.format [] [] failure
  | .ok pid =>
      let root := rootOf environment request
      let options := optionsOf request
      let messages :=
        logMessages readers environment request (Trace.ofInspection files root pid options)
      match Inspection.run files root pid options with
      | .error failure => failed request.format [] messages failure
      | .ok report =>
          let (sink, result) := report.write .unlimited request.format request.verbose
          match result with
          | .ok () => ⟨.clean, sink.written, messages⟩
          | .error failure => failed request.format sink.written messages failure

/-- A run that answers with a fixed text. -/
def answered (text : String) : Outcome :=
  ⟨.clean, Utf8.encode text, []⟩

/-- A run with any readers. -/
def runWith (readers : Readers) (arguments : List Bytes) (environment : Environment)
    (files : FileSystem) : Outcome :=
  match readers.invocation arguments with
  | .error problem => ⟨.arguments, [], [.usage problem]⟩
  | .ok .shortHelp => answered shortHelp
  | .ok .longHelp => answered longHelp
  | .ok .version => answered version
  | .ok (.inspect request) => inspectRun readers request environment files

/-- A run of the command. -/
def run (arguments : List Bytes) (environment : Environment) (files : FileSystem) : Outcome :=
  runWith .standard arguments environment files

end CommandLine
end ProcInspection
