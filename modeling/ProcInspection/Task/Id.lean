import ProcInspection.Text.Decimal

namespace ProcInspection

/-!
Process and thread numbers.

A process number read from user text is positive.  Numbers that come from
elsewhere are taken as they are, so zero is a value of the type.
-/

structure ProcessId where
  number : UInt32
  deriving DecidableEq

structure ThreadId where
  number : UInt32
  deriving DecidableEq

namespace ProcessId

def text (pid : ProcessId) : String :=
  Decimal.text pid.number.toNat

/-- A process number is a plain positive 32-bit number: no sign, no blank. -/
def parse? (input : String) : Option ProcessId :=
  match Decimal.word32? input.toList with
  | some number => if number = 0 then none else some ⟨number⟩
  | none => none

end ProcessId

namespace ThreadId

def text (tid : ThreadId) : String :=
  Decimal.text tid.number.toNat

/-- The first thread of a process carries the number of the process. -/
def isMainThreadOf (tid : ThreadId) (pid : ProcessId) : Bool :=
  decide (tid.number = pid.number)

end ThreadId
end ProcInspection
