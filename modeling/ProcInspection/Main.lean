import ProcInspection.CommandLine.Run
import ProcInspection.FileTree.Manifest

namespace ProcInspection

/-!
The command.

The tree of files is handed over as a manifest on standard input, and no
directory of it is worked in.  The arguments and the variables come from the
system, the report goes to standard output and every message to standard error.
-/

/-- Standard input up to its end. -/
partial def readInput (input : IO.FS.Stream) (before : String) : IO String := do
  let line ← input.getLine
  if line.isEmpty then return before
  readInput input (before ++ line)

/-- The variables that a run may look at. -/
def knownVariables : List String :=
  [CommandLine.rootVariable, LogSettings.levelVariable, LogSettings.generalVariable,
    LogSettings.formatVariable]

def readVariables : IO CommandLine.Environment := do
  let values ← knownVariables.mapM fun name => do
    return (name, ← IO.getEnv name)
  return fun name => ((values.lookup name).join).map Utf8.encode

/-- The tree is needed only for an inspection. -/
def readManifest (arguments : List Bytes) : IO String := do
  match CommandLine.parse arguments with
  | .ok (.inspect _) => readInput (← IO.getStdin) ""
  | _ => return ""

def printMessage (message : CommandLine.Message) : IO Unit :=
  IO.eprintln message.text

end ProcInspection

open ProcInspection

def main (arguments : List String) : IO UInt32 := do
  let environment ← readVariables
  let arguments := arguments.map Utf8.encode
  match Manifest.tree? (← readManifest arguments) with
  | none =>
      IO.eprintln "the manifest on standard input describes no tree"
      return UInt32.ofNat ExitCode.io.number
  | some tree =>
      let outcome := CommandLine.run arguments environment tree
      let output ← IO.getStdout
      output.write ⟨outcome.output.toArray⟩
      output.flush
      outcome.messages.forM printMessage
      return UInt32.ofNat outcome.exit.number
