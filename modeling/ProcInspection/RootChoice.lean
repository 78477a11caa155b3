import ProcInspection.Path

namespace ProcInspection

/-!
Which directory an inspection reads from.

The command line is asked first, then the environment, then the usual place.
An empty path is no answer.
-/

inductive RootSource where
  | commandLine
  | environment
  | standard
  deriving DecidableEq

/-- The name in documents. -/
def RootSource.name : RootSource -> String
  | .commandLine => "cli_argument"
  | .environment => "environment"
  | .standard => "default"

structure RootChoice where
  root : ProcRoot
  source : RootSource
  deriving DecidableEq

namespace RootChoice

/-- A path that is not empty. -/
def given? : Option Path -> Option Path
  | some path => if path.bytes.isEmpty then none else some path
  | none => none

def resolve (commandLine environment : Option Path) : RootChoice :=
  match given? commandLine with
  | some path => ⟨⟨path⟩, .commandLine⟩
  | none =>
      match given? environment with
      | some path => ⟨⟨path⟩, .environment⟩
      | none => ⟨.standard, .standard⟩

end RootChoice
end ProcInspection
