import ProcInspection.Log.Pattern.Escape
import ProcInspection.Log.Pattern.Height

namespace ProcInspection
namespace Pattern

/-!
Classes in brackets.

A class lists characters, ranges of them, and other classes.  Two ampersands,
dashes or tildes are operators between the lists.  Dashes at the front stand
for themselves, and so does a closing bracket that comes first, so that no
class can be left empty, although an operand can.
-/

/-- A class that is still open: the members since the last operator, the
height of all that is in front of that operator, and whether only dashes have
been read. -/
structure Bracket where
  members : Row
  before : Option Nat
  fresh : Bool
  deriving DecidableEq

/-- What a class continues with. -/
inductive Bracket.Sign where
  | dash
  | member
  | operator
  | opening
  | closing
  deriving DecidableEq

namespace Bracket

def opened : Bracket :=
  ⟨.empty, none, true⟩

def add (bracket : Bracket) (height : Nat) : Bracket :=
  { bracket with members := bracket.members.add height, fresh := false }

def addDash (bracket : Bracket) : Bracket :=
  { bracket with members := bracket.members.add 0 }

/-- The height of what is inside.  Operators associate to the left. -/
def innerHeight (bracket : Bracket) : Nat :=
  match bracket.before with
  | some before => max before bracket.members.height + 1
  | none => bracket.members.height

def height (bracket : Bracket) : Nat :=
  bracket.innerHeight + 1

def operator (bracket : Bracket) : Bracket :=
  ⟨.empty, some bracket.innerHeight, false⟩

/-- The text behind an opening bracket and a caret.  A class of bytes has no
complement. -/
def afterOpening? (mode : Mode) (text : List Char) : Option (List Char) :=
  match mode.skip text with
  | '^' :: rest => if mode.unicode then some rest else none
  | rest => some rest

def names : List String :=
  ["alnum", "alpha", "ascii", "blank", "cntrl", "digit", "graph", "lower", "print", "punct",
    "space", "upper", "word", "xdigit"]

/-- Behind an opening bracket, a class by its name between two colons: whether
its complement is meant, and the text behind it. -/
def named? : List Char -> Option (Bool × List Char)
  | ':' :: text =>
      let negated := text.head? = some '^'
      let rest := if negated then text.drop 1 else text
      match rest.dropWhile fun c => c ≠ ':' with
      | ':' :: ']' :: after =>
          if names.contains (String.ofList (rest.takeWhile fun c => c ≠ ':')) then
            some (negated, after)
          else none
      | _ => none
  | _ => none

/-- A member that is no class, and no range. -/
def single? (mode : Mode) : List Char -> Option (Escape × List Char)
  | [] => none
  | '\\' :: text => Escape.read? mode text
  | c :: text => some (.literal c false, text)

def admits (mode : Mode) : Escape -> Bool
  | .literal c _ => mode.admitsMember c
  | .shorthand => true
  | .assertion => false

/-- What a dash looks at to tell a range.  In a comment the first sign counts. -/
def ahead (mode : Mode) (text : List Char) : List Char :=
  if mode.spaced then
    match text.dropWhile Blank.isBlank with
    | '#' :: comment => comment.dropWhile Blank.isBlank
    | next => next
  else text

/-- A dash stands for itself in front of a closing bracket or another dash. -/
def dashIsMember (mode : Mode) (text : List Char) : Bool :=
  let next := (ahead mode text).head?
  next = some ']' || next = some '-'

/-- The text behind a member, or behind a range between two characters in
order. -/
def afterMember? (mode : Mode) (text : List Char) : Option (List Char) :=
  match single? mode text with
  | none => none
  | some (first, rest) =>
      let alone := if admits mode first then some rest else none
      match mode.skip rest with
      | '-' :: after =>
          if dashIsMember mode after then alone
          else
            match first, single? mode (mode.skip after) with
            | .literal low _, some (.literal high _, behind) =>
                if mode.admitsMember low && mode.admitsMember high && low ≤ high then some behind
                else none
            | _, _ => none
      | _ => alone

/-- The next sign of a class and the text behind it. -/
def sign? (mode : Mode) (bracket : Bracket) : List Char -> Option (Sign × List Char)
  | [] => none
  | c :: text =>
      if bracket.fresh && c = '-' then if mode.admitsMember c then some (.dash, text) else none
      else if bracket = opened && c = ']' then
        if mode.admitsMember c then some (.member, text) else none
      else if c = ']' then some (.closing, text)
      else if c = '[' then
        match named? text with
        | some (negated, after) => if mode.admitsNamed negated then some (.member, after) else none
        | none => (afterOpening? mode text).map fun after => (.opening, after)
      else if "&-~".toList.contains c && text.head? = some c then some (.operator, text.drop 1)
      else (afterMember? mode (c :: text)).map fun after => (.member, after)

/-- The height of an open class, and the text behind its closing bracket.
Each sign takes at least one character. -/
def close? (mode : Mode) : (fuel : Nat) -> Bracket -> (outer : List Bracket) -> List Char ->
    Option (Nat × List Char)
  | 0, _, _, _ => none
  | fuel + 1, bracket, outer, text =>
      match sign? mode bracket (mode.skip text) with
      | none => none
      | some (.dash, rest) => close? mode fuel bracket.addDash outer rest
      | some (.member, rest) => close? mode fuel (bracket.add 0) outer rest
      | some (.operator, rest) => close? mode fuel bracket.operator outer rest
      | some (.opening, rest) => close? mode fuel opened (bracket :: outer) rest
      | some (.closing, rest) =>
          match outer with
          | around :: outer => close? mode fuel (around.add bracket.height) outer rest
          | [] => some (bracket.height, rest)

/-- The height of the class behind an opening bracket, and the text behind it. -/
def read? (mode : Mode) (text : List Char) : Option (Nat × List Char) :=
  (afterOpening? mode text).bind fun inside => close? mode inside.length opened [] inside

end Bracket
end Pattern
end ProcInspection
