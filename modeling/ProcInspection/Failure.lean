import ProcInspection.IoFailure
import ProcInspection.Json
import ProcInspection.Path

namespace ProcInspection

/-!
Why a whole read fails.

A failure is its cause; code, category, wording and advice are functions of
it.  A report of a failure is what is kept in a document: it no longer holds
the cause, only what is said about it.
-/

inductive FailureCategory where
  | arguments
  | notFound
  | permissionDenied
  | resourceExhausted
  | malformedInput
  | io
  deriving DecidableEq

namespace FailureCategory

def name : FailureCategory -> String
  | .arguments => "args"
  | .notFound => "not_found"
  | .permissionDenied => "permission_denied"
  | .resourceExhausted => "resource_exhausted"
  | .malformedInput => "malformed_input"
  | .io => "io"

/-- The few words that stand in a report line. -/
def shortReason : FailureCategory -> String
  | .arguments => "invalid argument"
  | .notFound => "process not found"
  | .permissionDenied => "permission denied"
  | .resourceExhausted => "out of memory"
  | .malformedInput => "unreadable kernel data"
  | .io => "I/O error"

end FailureCategory

inductive Failure where
  | invalidPid (input : String)
  | processNotFound (pid : ProcessId)
  | permissionDenied (pid : ProcessId)
  | resourceExhausted (what : String)
  | connectionTable (path : Path) (cause : IoFailure)
  | io (cause : IoFailure)
  | json (detail : String)
  deriving DecidableEq

namespace Failure

/-- A read below a process directory: a missing file means that there is no
such process, a refused one that it belongs to somebody else. -/
def ofProcessRead (pid : ProcessId) (cause : IoFailure) : Failure :=
  match cause.kind with
  | .notFound => .processNotFound pid
  | .permissionDenied => .permissionDenied pid
  | _ => .io cause

def code : Failure -> Nat
  | .invalidPid _ => 10
  | .processNotFound _ => 20
  | .permissionDenied _ => 21
  | .resourceExhausted _ => 30
  | .connectionTable _ _ => 40
  | .io _ => 60
  | .json _ => 61

def category : Failure -> FailureCategory
  | .invalidPid _ => .arguments
  | .processNotFound _ => .notFound
  | .permissionDenied _ => .permissionDenied
  | .resourceExhausted _ => .resourceExhausted
  | .connectionTable _ _ => .malformedInput
  | .io _ => .io
  | .json _ => .io

/-- Can trying again, or with more rights, help? -/
def recoverable : Failure -> Bool
  | .permissionDenied _ => true
  | .connectionTable _ _ => true
  | .io _ => true
  | _ => false

def message : Failure -> String
  | .invalidPid input => "invalid PID: " ++ input
  | .processNotFound pid => "process " ++ pid.text ++ " not found"
  | .permissionDenied pid => "permission denied accessing process " ++ pid.text
  | .resourceExhausted what => "out of memory: " ++ what
  | .connectionTable path cause =>
      "cannot read connection table " ++ path.text ++ ": " ++ cause.text
  | .io cause => "I/O error: " ++ cause.text
  | .json detail => "JSON serialization error: " ++ detail

def headline : Failure -> String
  | .invalidPid _ => "Invalid Argument"
  | .processNotFound _ => "Process Not Found"
  | .permissionDenied _ => "Permission Denied"
  | .resourceExhausted _ => "Out of Memory"
  | .connectionTable _ _ => "Connection Table Unreadable"
  | .io _ => "I/O Error"
  | .json _ => "JSON Serialization Error"

def remediation : Failure -> String
  | .invalidPid _ => "Pass a positive decimal process ID, e.g. 'pinspect $$'."
  | .processNotFound _ =>
      "The process does not exist or exited. Check the PID with 'ps -p <pid>'."
  | .permissionDenied _ =>
      "The process belongs to another user. Re-run as that user or with elevated privileges."
  | .resourceExhausted _ => "The system is out of memory. Free memory and retry."
  | .connectionTable _ _ => "Check that /proc/net is mounted and readable in this namespace."
  | .io _ => "Check that /proc is mounted and retry."
  | .json _ => "Internal serialization failure. Report it as a bug."

/-- The three lines shown to a person, with or without terminal colours. -/
def humanText (failure : Failure) (colour : Bool) : String :=
  let red := if colour then "\x1b[31m" else ""
  let cyan := if colour then "\x1b[36m" else ""
  let reset := if colour then "\x1b[0m" else ""
  red ++ "✗" ++ reset ++ " " ++ failure.headline ++ "\n"
    ++ "  Reason: " ++ failure.message ++ "\n"
    ++ "  " ++ cyan ++ "Fix:" ++ reset ++ " " ++ failure.remediation

end Failure

/-- The one fact about its cause that a failure report repeats. -/
inductive FailureContext where
  | pid (number : UInt32)
  | path (text : String)
  deriving DecidableEq

structure FailureReport where
  code : Nat
  category : FailureCategory
  message : String
  recoverable : Bool
  context : Option FailureContext
  deriving DecidableEq

namespace Failure

def context : Failure -> Option FailureContext
  | .processNotFound pid => some (.pid pid.number)
  | .permissionDenied pid => some (.pid pid.number)
  | .connectionTable path _ => some (.path path.text)
  | _ => none

def report (failure : Failure) : FailureReport where
  code := failure.code
  category := failure.category
  message := failure.message
  recoverable := failure.recoverable
  context := failure.context

end Failure

/-- A process number given as text, or the failure that repeats the text. -/
def ProcessId.parse (input : String) : Except Failure ProcessId :=
  match ProcessId.parse? input with
  | some pid => .ok pid
  | none => .error (.invalidPid input)

namespace FailureContext

def json : FailureContext -> Json
  | .pid number => .object [("pid", .number number.toNat)]
  | .path text => .object [("path", .text text)]

end FailureContext

namespace FailureReport

def json (report : FailureReport) : Json :=
  .object (
    [("code", .number report.code),
      ("category", .text report.category.name),
      ("message", .text report.message),
      ("recoverable", .boolean report.recoverable)]
      ++ Json.optionalField "context" (report.context.map FailureContext.json))

end FailureReport
end ProcInspection
