import ProcInspection.Inspection
import ProcInspection.Text.Column

namespace ProcInspection
namespace Report

/-!
The report for a person to read.

The text is a sequence of blocks with an empty line between them.  A section
that failed is one line with a few words of reason; a section that is absent
leaves no block.  A report without descriptors that records no failure of them
comes from a run that asked for the network alone, and then neither the
summary nor the threads are shown.
-/

abbrev Line := List Char

def summaryLine (label : String) (value : Line) : Line :=
  Column.left 10 label.toList ++ ' ' :: value

def idLine (label : String) (real effective : UInt32) : Line :=
  summaryLine label (Decimal.digits real.toNat ++ " (real), ".toList
    ++ Decimal.digits effective.toNat ++ " (effective)".toList)

def memoryLine (status : Status) : Line :=
  summaryLine "Memory:" ("VmSize: ".toList ++ Decimal.digits status.virtualSize.toNat
    ++ " KB, VmRSS: ".toList ++ Decimal.digits status.residentSize.toNat
    ++ " KB, VmPeak: ".toList ++ Decimal.digits status.peakSize.toNat ++ " KB".toList)

def summary (report : Report) : List Line :=
  let status := report.status
  [summaryLine "Process:" (status.name.toList ++ " (PID ".toList
      ++ Decimal.digits report.pid.number.toNat ++ [')']),
    summaryLine "State:" status.state.text.toList,
    idLine "UID:" status.realUser status.effectiveUser,
    idLine "GID:" status.realGroup status.effectiveGroup,
    memoryLine status,
    summaryLine "Threads:" (Decimal.digits status.threadCount.toNat)]

def failureLine (reportSection : ReportSection) (failure : FailureReport) : Line :=
  reportSection.title.toList ++ ": Unable to read (".toList
    ++ failure.category.shortReason.toList ++ [')']

def countLine (reportSection : ReportSection) (count : Nat) : Line :=
  reportSection.title.toList ++ ": ".toList ++ Decimal.digits count ++ " open".toList

/-- A table under its count, with an empty line in front, if it is asked for
and has a row. -/
def tableLines (verbose : Bool) (heading rule : String) (rows : List Line) : List Line :=
  if verbose && !rows.isEmpty then [] :: heading.toList :: rule.toList :: rows else []

/-- Two spaces, which stand in front of each cell. -/
def gap : Line :=
  [' ', ' ']

def descriptorRow (descriptor : Descriptor) : Line :=
  gap ++ Column.left 4 (Decimal.digits descriptor.number.toNat)
    ++ gap ++ Column.left 8 descriptor.kind.text.toList
    ++ gap ++ descriptor.target.toList

def threadRow (thread : Thread) : Line :=
  gap ++ Column.left 6 (Decimal.digits thread.tid.number.toNat)
    ++ gap ++ Column.left 10 thread.state.text.toList
    ++ gap ++ thread.name.toList

def socketRow (connection : Connection) : Line :=
  gap ++ Column.left 5 connection.protocol.text.toList
    ++ gap ++ Column.left 21 connection.localEnd.dotted
    ++ gap ++ Column.left 21 connection.remoteEnd.dotted
    ++ gap ++ connection.state.text.toList

def descriptorHeading : String :=
  "  FD    Type      Target"

def descriptorRule : String :=
  "  ----  --------  ----------------------------------------"

def threadHeading : String :=
  "  TID     State       Name"

def threadRule : String :=
  "  ------  ----------  ----------------"

def socketHeading : String :=
  "  Proto  Local Address          Remote Address         State"

def socketRule : String :=
  "  -----  ---------------------  ---------------------  -----------"

def descriptorLines (verbose : Bool) (descriptors : List Descriptor) : List Line :=
  countLine .descriptors descriptors.length
    :: tableLines verbose descriptorHeading descriptorRule (descriptors.map descriptorRow)

/-- The thread table stands without a count, and also when it has no row. -/
def threadLines (threads : List Thread) : List Line :=
  "Thread Details:".toList :: threadHeading.toList :: threadRule.toList :: threads.map threadRow

def socketLines (verbose : Bool) (sockets : List Connection) : List Line :=
  countLine .sockets sockets.length
    :: tableLines verbose socketHeading socketRule (sockets.map socketRow)

/-- The block of a section: its failure if it has one, else what was read. -/
def sectionBlock (report : Report) (reportSection : ReportSection)
    (lines : Option (List Line)) : Option (List Line) :=
  match report.failures.get reportSection with
  | some failure => some [failureLine reportSection failure]
  | none => lines

def descriptorBlock (report : Report) (verbose : Bool) : Option (List Line) :=
  report.sectionBlock .descriptors (report.descriptors.map (descriptorLines verbose))

def threadBlock (report : Report) : Option (List Line) :=
  report.sectionBlock .threads (report.threads.map threadLines)

def socketBlock (report : Report) (verbose : Bool) : Option (List Line) :=
  report.sectionBlock .sockets (report.sockets.map (socketLines verbose))

def showsNetworkOnly (report : Report) : Bool :=
  report.descriptors.isNone && report.failures.descriptors.isNone

/-- The blocks about the process itself. -/
def processBlocks (report : Report) (verbose : Bool) : List (List Line) :=
  report.summary :: (report.descriptorBlock verbose).toList
    ++ if verbose then report.threadBlock.toList else []

def blocks (report : Report) (verbose : Bool) : List (List Line) :=
  (if report.showsNetworkOnly then [] else report.processBlocks verbose)
    ++ (report.socketBlock verbose).toList

/-- Lines, each ended by a line feed. -/
def endLines (lines : List Line) : List Char :=
  lines.flatMap fun line => line ++ ['\n']

/-- The text so far, with an empty line behind it unless it is empty. -/
def breakSection (text : List Char) : List Char :=
  if text.isEmpty then text else text ++ ['\n']

/-- The text so far with one more block. -/
def addBlock (text : List Char) (block : List Line) : List Char :=
  breakSection text ++ endLines block

def humanText (report : Report) (verbose : Bool) : String :=
  String.ofList ((report.blocks verbose).foldl addBlock [])

end Report
end ProcInspection
