import ProcInspection.Text.Choice

namespace ProcInspection

/-!
How much is logged, and in which form.

Names are read without regard to the case of ASCII letters.  Some have
aliases.
-/

inductive LogLevel where
  | trace
  | debug
  | info
  | warn
  | error
  | off
  deriving DecidableEq

inductive LogFormat where
  | human
  | jsonl
  deriving DecidableEq

/-- A text that names no level or format. -/
inductive LogNameError where
  | level (input : String)
  | format (input : String)
  deriving DecidableEq

def LogNameError.message : LogNameError -> String
  | .level input => "unknown log level '" ++ input ++ "'"
  | .format input => "unknown log format '" ++ input ++ "' (expected human or jsonl)"

namespace LogLevel

/-- Every level, the most talkative first. -/
def all : List LogLevel :=
  [.trace, .debug, .info, .warn, .error, .off]

def name : LogLevel -> String
  | .trace => "trace"
  | .debug => "debug"
  | .info => "info"
  | .warn => "warn"
  | .error => "error"
  | .off => "off"

/-- The word in log lines. -/
def label : LogLevel -> String
  | .trace => "TRACE"
  | .debug => "DEBUG"
  | .info => "INFO"
  | .warn => "WARN"
  | .error => "ERROR"
  | .off => "OFF"

/-- How much a level lets through. -/
def verbosity : LogLevel -> Nat
  | .off => 0
  | .error => 1
  | .warn => 2
  | .info => 3
  | .debug => 4
  | .trace => 5

/-- Does a threshold let an event of some level through?  Nothing passes a
threshold that is off. -/
def lets (threshold event : LogLevel) : Bool :=
  event.verbosity ≤ threshold.verbosity && event != .off

def aliases : List (String × LogLevel) :=
  [("warning", .warn), ("none", .off), ("quiet", .off)]

def ofName? (input : String) : Option LogLevel :=
  let lower := lowerAscii input
  match aliases.lookup lower with
  | some level => some level
  | none => all.find? fun level => level.name = lower

def parse (input : String) : Except LogNameError LogLevel :=
  match ofName? input with
  | some level => .ok level
  | none => .error (.level input)

end LogLevel

namespace LogFormat

def all : List LogFormat :=
  [.human, .jsonl]

def name : LogFormat -> String
  | .human => "human"
  | .jsonl => "jsonl"

def aliases : List (String × LogFormat) :=
  [("console", .human), ("pretty", .human), ("json", .jsonl)]

def ofName? (input : String) : Option LogFormat :=
  let lower := lowerAscii input
  match aliases.lookup lower with
  | some format => some format
  | none => all.find? fun format => format.name = lower

def parse (input : String) : Except LogNameError LogFormat :=
  match ofName? input with
  | some format => .ok format
  | none => .error (.format input)

end LogFormat
end ProcInspection
