import ProcInspection.Log.Pattern.Bracket
import ProcInspection.Log.Pattern.Group

namespace ProcInspection
namespace Pattern

/-!
Which texts are patterns.

A pattern is a regular expression.  Nothing is ever matched here: a log field
with a wanted value concerns spans alone, and all that matters is whether the
value can be read.

A pattern is scanned once from left to right.  The scan keeps the groups that
are open, with the whole text as the outermost, and the group names that are
taken.
-/

structure Scan where
  group : Group
  outer : List Group
  names : List (List Char)
  deriving DecidableEq

namespace Scan

def start : Scan :=
  ⟨.opened .standard, [], []⟩

def mode (scan : Scan) : Mode :=
  scan.group.mode

def add (scan : Scan) (height : Nat) : Scan :=
  { scan with group := scan.group.add height }

/-- Inside a new group, in a mode of its own. -/
def within (scan : Scan) (mode : Mode) : Scan :=
  { scan with group := .opened mode, outer := scan.group :: scan.outer }

/-- After a parenthesis.  A name is taken only once. -/
def opened? (scan : Scan) : Opening -> Option Scan
  | .plain => some (scan.within scan.mode)
  | .named name =>
      if scan.names.contains name then none
      else some { scan.within scan.mode with names := name :: scan.names }
  | .flagged mode => some (scan.within mode)
  | .flags mode => some { scan with group := scan.group.set mode }

/-- Behind a group, in the mode that was in force around it. -/
def closed? (scan : Scan) : Option Scan :=
  match scan.outer with
  | around :: outer =>
      some { scan with group := around.add (scan.group.height + 1), outer := outer }
  | [] => none

def alternative (scan : Scan) : Scan :=
  { scan with group := scan.group.alternative }

def repeated? (scan : Scan) : Option Scan :=
  scan.group.repeated?.map fun group => { scan with group := group }

def literal? (scan : Scan) (c : Char) (byte : Bool) : Option Scan :=
  if scan.mode.admits c byte then some (scan.add 0) else none

def escaped? (scan : Scan) : Escape -> Option Scan
  | .literal c byte => scan.literal? c byte
  | _ => some (scan.add 0)

/-- A repetition is as short as can be if a question mark follows. -/
def afterRepetition (text : List Char) : List Char :=
  if text.head? = some '?' then text.drop 1 else text

/-- One item from the front of the text.  A dot may match more than a byte.  A
count in braces would have to be closed, and no text with the closing brace
gets here. -/
def step? (scan : Scan) (c : Char) (text : List Char) : Option (Scan × List Char) :=
  if c = '\\' then
    (Escape.read? scan.mode text).bind fun (escape, after) =>
      (scan.escaped? escape).map fun next => (next, after)
  else if c = '(' then
    (Opening.read? scan.mode text).bind fun (opening, after) =>
      (scan.opened? opening).map fun next => (next, after)
  else if c = '[' then
    (Bracket.read? scan.mode text).map fun (height, after) => (scan.add height, after)
  else if c = ')' then scan.closed?.map fun next => (next, text)
  else if c = '|' then some (scan.alternative, text)
  else if "*+?".toList.contains c then
    scan.repeated?.map fun next => (next, afterRepetition text)
  else if c = '{' then none
  else if c = '.' then if scan.mode.unicode then some (scan.add 0, text) else none
  else if "^$".toList.contains c then some (scan.add 0, text)
  else (scan.literal? c false).map fun next => (next, text)

/-- At the end every group is closed, and the whole is not too high. -/
def isComplete (scan : Scan) : Bool :=
  scan.outer.isEmpty && scan.group.height ≤ greatestHeight

/-- Scan a text to its end.  Each item takes at least one character. -/
def accepts (scan : Scan) : (fuel : Nat) -> List Char -> Bool
  | 0, text => text.isEmpty && scan.isComplete
  | fuel + 1, text =>
      match scan.mode.skip text with
      | [] => scan.isComplete
      | c :: rest =>
          match scan.step? c rest with
          | some (next, after) => next.accepts fuel after
          | none => false

end Scan

def isPattern (text : List Char) : Bool :=
  Scan.start.accepts text.length text

end Pattern
end ProcInspection
