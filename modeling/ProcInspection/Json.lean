import ProcInspection.Text.Decimal

namespace ProcInspection

/-!
JSON documents and their two written forms.

Objects keep the order of their fields.  The compact form has no blanks.  The
indented form gives every item and field a line of its own, two spaces deeper
than what holds it; an empty list or object stays on one line.
-/

inductive Json where
  | boolean (value : Bool)
  | number (value : Nat)
  | text (value : String)
  | list (items : List Json)
  | object (fields : List (String × Json))

namespace Json

def lowerHexDigit (value : Nat) : Char :=
  if value < 10 then Char.ofNat (48 + value) else Char.ofNat (87 + value)

/-- A quote, a backslash and the control characters below the space are
written as escapes, all other characters as they are. -/
def escape (c : Char) : List Char :=
  if c = '"' then ['\\', '"']
  else if c = '\\' then ['\\', '\\']
  else if c = '\n' then ['\\', 'n']
  else if c = '\r' then ['\\', 'r']
  else if c = '\t' then ['\\', 't']
  else if c.toNat = 8 then ['\\', 'b']
  else if c.toNat = 12 then ['\\', 'f']
  else if c.toNat < 32 then
    ['\\', 'u', '0', '0', lowerHexDigit (c.toNat / 16), lowerHexDigit (c.toNat % 16)]
  else [c]

def quote (value : String) : List Char :=
  '"' :: value.toList.flatMap escape ++ ['"']

def truth : Bool -> List Char
  | true => ['t', 'r', 'u', 'e']
  | false => ['f', 'a', 'l', 's', 'e']

mutual

def compact : Json -> List Char
  | .boolean value => truth value
  | .number value => Nat.toDigits 10 value
  | .text value => quote value
  | .list items => '[' :: compactItems items ++ [']']
  | .object fields => '{' :: compactFields fields ++ ['}']

def compactItems : List Json -> List Char
  | [] => []
  | [item] => compact item
  | item :: items => compact item ++ ',' :: compactItems items

def compactFields : List (String × Json) -> List Char
  | [] => []
  | [(name, value)] => quote name ++ ':' :: compact value
  | (name, value) :: fields => quote name ++ ':' :: compact value ++ ',' :: compactFields fields

end

/-- A line break and the blanks in front of what stands `depth` levels deep. -/
def newline (depth : Nat) : List Char :=
  '\n' :: List.replicate (2 * depth) ' '

mutual

/-- The indented form of a document that stands `depth` levels deep. -/
def indented (depth : Nat) : Json -> List Char
  | .boolean value => truth value
  | .number value => Nat.toDigits 10 value
  | .text value => quote value
  | .list [] => ['[', ']']
  | .list (item :: items) =>
      '[' :: newline (depth + 1) ++ indented (depth + 1) item
        ++ indentedItems (depth + 1) items ++ newline depth ++ [']']
  | .object [] => ['{', '}']
  | .object ((name, value) :: fields) =>
      '{' :: newline (depth + 1) ++ quote name ++ [':', ' '] ++ indented (depth + 1) value
        ++ indentedFields (depth + 1) fields ++ newline depth ++ ['}']

/-- The items after the first, each led by a comma. -/
def indentedItems (depth : Nat) : List Json -> List Char
  | [] => []
  | item :: items =>
      ',' :: newline depth ++ indented depth item ++ indentedItems depth items

/-- The fields after the first, each led by a comma. -/
def indentedFields (depth : Nat) : List (String × Json) -> List Char
  | [] => []
  | (name, value) :: fields =>
      ',' :: newline depth ++ quote name ++ [':', ' '] ++ indented depth value
        ++ indentedFields depth fields

end

def compactText (document : Json) : String :=
  String.ofList document.compact

def indentedText (document : Json) : String :=
  String.ofList (indented 0 document)

/-- A field that is written only when it has a value. -/
def optionalField (name : String) : Option Json -> List (String × Json)
  | some value => [(name, value)]
  | none => []

end Json
end ProcInspection
