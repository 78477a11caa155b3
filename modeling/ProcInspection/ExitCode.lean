import ProcInspection.Failure

namespace ProcInspection

/-!
How a run ends, for the scripts that started it.
-/

inductive ExitCode where
  | clean
  | arguments
  | notFound
  | permission
  | resourceExhausted
  | io
  deriving DecidableEq

namespace ExitCode

def all : List ExitCode :=
  [.clean, .arguments, .notFound, .permission, .resourceExhausted, .io]

def number : ExitCode -> Nat
  | .clean => 0
  | .arguments => 1
  | .notFound => 2
  | .permission => 3
  | .resourceExhausted => 4
  | .io => 5

def name : ExitCode -> String
  | .clean => "OK_CLEAN"
  | .arguments => "ERR_ARGS"
  | .notFound => "ERR_NOT_FOUND"
  | .permission => "ERR_PERMISSION"
  | .resourceExhausted => "ERR_RESOURCE"
  | .io => "ERR_IO"

def text (exit : ExitCode) : String :=
  exit.name ++ " (" ++ Decimal.text exit.number ++ ")"

def isSuccess (exit : ExitCode) : Bool :=
  decide (exit = .clean)

def ofCategory : FailureCategory -> ExitCode
  | .arguments => .arguments
  | .notFound => .notFound
  | .permissionDenied => .permission
  | .resourceExhausted => .resourceExhausted
  | .malformedInput => .io
  | .io => .io

def ofFailure (failure : Failure) : ExitCode :=
  ofCategory failure.category

end ExitCode
end ProcInspection
