import ProcInspection.Text.Decimal

namespace ProcInspection

/-!
Failures of the reads and writes below the program.

Only their kind steers the program; the text is carried to the user.
-/

inductive IoKind where
  | notFound
  | permissionDenied
  | interrupted
  | other
  deriving DecidableEq

structure IoFailure where
  kind : IoKind
  text : String
  deriving DecidableEq

/-- The causes that a system call reports by number. -/
inductive SystemError where
  | operationNotPermitted
  | noSuchEntry
  | inputOutput
  | outOfMemory
  | accessDenied
  | notADirectory
  | isADirectory
  | invalidArgument
  | nameTooLong
  | tooManyLinks
  deriving DecidableEq

namespace SystemError

def all : List SystemError :=
  [.operationNotPermitted, .noSuchEntry, .inputOutput, .outOfMemory, .accessDenied,
    .notADirectory, .isADirectory, .invalidArgument, .nameTooLong, .tooManyLinks]

def number : SystemError -> Nat
  | .operationNotPermitted => 1
  | .noSuchEntry => 2
  | .inputOutput => 5
  | .outOfMemory => 12
  | .accessDenied => 13
  | .notADirectory => 20
  | .isADirectory => 21
  | .invalidArgument => 22
  | .nameTooLong => 36
  | .tooManyLinks => 40

def phrase : SystemError -> String
  | .operationNotPermitted => "Operation not permitted"
  | .noSuchEntry => "No such file or directory"
  | .inputOutput => "Input/output error"
  | .outOfMemory => "Cannot allocate memory"
  | .accessDenied => "Permission denied"
  | .notADirectory => "Not a directory"
  | .isADirectory => "Is a directory"
  | .invalidArgument => "Invalid argument"
  | .nameTooLong => "File name too long"
  | .tooManyLinks => "Too many levels of symbolic links"

def kind : SystemError -> IoKind
  | .noSuchEntry => .notFound
  | .operationNotPermitted => .permissionDenied
  | .accessDenied => .permissionDenied
  | _ => .other

def ofNumber? (number : Nat) : Option SystemError :=
  all.find? fun cause => cause.number = number

end SystemError

namespace IoFailure

def ofSystem (cause : SystemError) : IoFailure :=
  ⟨cause.kind, cause.phrase ++ " (os error " ++ Decimal.text cause.number ++ ")"⟩

/-- A file read as text holds bytes that are not text. -/
def notText : IoFailure :=
  ⟨.other, "stream did not contain valid UTF-8"⟩

/-- A path holds a zero byte, which the system takes for its end. -/
def zeroByte : IoFailure :=
  ⟨.other, "file name contained an unexpected NUL byte"⟩

end IoFailure
end ProcInspection
