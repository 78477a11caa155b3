namespace ProcInspection

/-!
The two forms of a report, by the names under which they are asked for.
-/

inductive OutputFormat where
  | human
  | json
  deriving DecidableEq

namespace OutputFormat

def all : List OutputFormat :=
  [.human, .json]

def name : OutputFormat -> String
  | .human => "human"
  | .json => "json"

end OutputFormat

end ProcInspection
