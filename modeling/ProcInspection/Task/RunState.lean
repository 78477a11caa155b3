import ProcInspection.Text.Blank

namespace ProcInspection

/-!
What the scheduler says a process or thread is doing.
-/

inductive RunState where
  | running
  | sleeping
  | diskSleep
  | zombie
  | stopped
  | idle
  | unknown
  deriving DecidableEq

namespace RunState

def all : List RunState :=
  [.running, .sleeping, .diskSleep, .zombie, .stopped, .idle, .unknown]

/-- Any letter but the six known ones is an unknown state. -/
def ofLetter (letter : Char) : RunState :=
  if letter = 'R' then .running
  else if letter = 'S' then .sleeping
  else if letter = 'D' then .diskSleep
  else if letter = 'Z' then .zombie
  else if letter = 'T' then .stopped
  else if letter = 'I' then .idle
  else .unknown

def letter : RunState -> Char
  | .running => 'R'
  | .sleeping => 'S'
  | .diskSleep => 'D'
  | .zombie => 'Z'
  | .stopped => 'T'
  | .idle => 'I'
  | .unknown => '?'

/-- The first byte that is not blank decides. -/
def ofValue (value : Bytes) : RunState :=
  match value.find? fun byte => !Blank.isBlankByte byte with
  | some byte => ofLetter (Char.ofNat byte.toNat)
  | none => .unknown

/-- The name in documents. -/
def name : RunState -> String
  | .running => "running"
  | .sleeping => "sleeping"
  | .diskSleep => "disk_sleep"
  | .zombie => "zombie"
  | .stopped => "stopped"
  | .idle => "idle"
  | .unknown => "unknown"

/-- The words in tables. -/
def text : RunState -> String
  | .running => "Running"
  | .sleeping => "Sleeping"
  | .diskSleep => "Disk Sleep"
  | .zombie => "Zombie"
  | .stopped => "Stopped"
  | .idle => "Idle"
  | .unknown => "Unknown"

end RunState
end ProcInspection
