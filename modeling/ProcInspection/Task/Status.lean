import ProcInspection.Failure
import ProcInspection.FileSystem
import ProcInspection.Json
import ProcInspection.Task.Name
import ProcInspection.Task.RunState

namespace ProcInspection

/-!
The status file of a process.

The file is lines of a key, a colon and a value.  Eight keys are known and
every other line is passed over.  A later line of a key takes the place of an
earlier one.  Only the name and the state are read as raw bytes; the numeric
values count only where the value is text.
-/

structure Status where
  pid : ProcessId
  name : String
  state : RunState
  realUser : UInt32
  effectiveUser : UInt32
  realGroup : UInt32
  effectiveGroup : UInt32
  virtualSize : UInt64
  residentSize : UInt64
  peakSize : UInt64
  threadCount : UInt32
  deriving DecidableEq

namespace Status

def empty (pid : ProcessId) : Status :=
  ⟨pid, "", .unknown, 0, 0, 0, 0, 0, 0, 0, 0⟩

inductive Key where
  | name
  | state
  | user
  | group
  | virtualSize
  | residentSize
  | peakSize
  | threads
  deriving DecidableEq

namespace Key

def all : List Key :=
  [.name, .state, .user, .group, .virtualSize, .residentSize, .peakSize, .threads]

def text : Key -> String
  | .name => "Name"
  | .state => "State"
  | .user => "Uid"
  | .group => "Gid"
  | .virtualSize => "VmSize"
  | .residentSize => "VmRSS"
  | .peakSize => "VmPeak"
  | .threads => "Threads"

def ofBytes? (bytes : Bytes) : Option Key :=
  all.find? fun key => Utf8.encode key.text = bytes

end Key

def colon : UInt8 := 0x3A

/-- The bytes before the first colon of a line, and those after it. -/
def splitLine? (line : Bytes) : Option (Bytes × Bytes) :=
  match line.dropWhile fun byte => byte ≠ colon with
  | _ :: value => some (line.takeWhile fun byte => byte ≠ colon, value)
  | [] => none

/-- The first two words, if both are 32-bit numbers. -/
def idPair? (value : String) : Option (UInt32 × UInt32) :=
  match Blank.words value.toList with
  | first :: second :: _ =>
      match Decimal.signedWord32? first, Decimal.signedWord32? second with
      | some real, some effective => some (real, effective)
      | _, _ => none
  | _ => none

/-- The first word, if it is a 64-bit number, and zero otherwise. -/
def kilobytes (value : String) : UInt64 :=
  match Blank.words value.toList with
  | first :: _ => (Decimal.signedWord64? first).getD 0
  | [] => 0

/-- The whole value without blanks at its ends, if it is a 32-bit number, and
zero otherwise. -/
def count (value : String) : UInt32 :=
  (Decimal.signedWord32? (Blank.trim value.toList)).getD 0

/-- Take over a text value.  A pair of identifiers that is no pair of numbers
leaves the status as it was; a size or count that is no number sets zero. -/
def setText (status : Status) (key : Key) (value : String) : Status :=
  match key with
  | .user =>
      match idPair? value with
      | some (real, effective) => { status with realUser := real, effectiveUser := effective }
      | none => status
  | .group =>
      match idPair? value with
      | some (real, effective) => { status with realGroup := real, effectiveGroup := effective }
      | none => status
  | .virtualSize => { status with virtualSize := kilobytes value }
  | .residentSize => { status with residentSize := kilobytes value }
  | .peakSize => { status with peakSize := kilobytes value }
  | .threads => { status with threadCount := count value }
  | .name => status
  | .state => status

def set (status : Status) (key : Key) (value : Bytes) : Status :=
  match key with
  | .name => { status with name := TaskName.ofBytes (Blank.trimBytes value) }
  | .state => { status with state := RunState.ofValue value }
  | other =>
      match Utf8.decode? value with
      | some text => status.setText other text
      | none => status

def addLine (status : Status) (line : Bytes) : Status :=
  match splitLine? line with
  | some (key, value) =>
      match Key.ofBytes? key with
      | some known => status.set known value
      | none => status
  | none => status

def lines (content : Bytes) : List Bytes :=
  content.splitOnP fun byte => byte == TaskName.lineFeed

def parse (pid : ProcessId) (content : Bytes) : Status :=
  (lines content).foldl addLine (empty pid)

def read (files : FileSystem) (root : ProcRoot) (pid : ProcessId) : Except Failure Status :=
  match files.read (root.statusFile pid) with
  | .ok content => .ok (parse pid content)
  | .error cause => .error (.ofProcessRead pid cause)

/-- A status file as the kernel writes it, with sample values for all but the
name, the state and the number of threads. -/
def sample (name state : List Char) (threads : UInt32) : List Char :=
  "Name:\t".toList ++ name ++ "\nUmask:\t0022\nState:\t".toList ++ state
    ++ "\nTgid:\t1\nNgid:\t0\nPid:\t1\nPPid:\t0\n".toList
    ++ "Uid:\t1000\t1000\t1000\t1000\nGid:\t100\t100\t100\t100\n".toList
    ++ "VmPeak:\t  10240 kB\nVmSize:\t  10000 kB\nVmRSS:\t   2048 kB\nThreads:\t".toList
    ++ Decimal.digits threads.toNat ++ ['\n']

def json (status : Status) : Json :=
  .object
    [("pid", .number status.pid.number.toNat),
      ("name", .text status.name),
      ("state", .text status.state.name),
      ("uid_real", .number status.realUser.toNat),
      ("uid_effective", .number status.effectiveUser.toNat),
      ("gid_real", .number status.realGroup.toNat),
      ("gid_effective", .number status.effectiveGroup.toNat),
      ("vm_size_kb", .number status.virtualSize.toNat),
      ("vm_rss_kb", .number status.residentSize.toNat),
      ("vm_peak_kb", .number status.peakSize.toNat),
      ("thread_count", .number status.threadCount.toNat)]

end Status
end ProcInspection
