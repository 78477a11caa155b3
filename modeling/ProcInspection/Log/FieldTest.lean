import ProcInspection.Log.Pattern

namespace ProcInspection

/-!
A test for one field of a log event: its name, and a value that it may have to
have.  A value is a number or a pattern.  Most numbers are patterns as well;
the others have a plus sign in front, with nothing before it to repeat.
-/

structure FieldTest where
  name : String
  value : Option String
  deriving DecidableEq

namespace FieldTest

/-- A power of ten behind a number, or nothing. -/
def isExponent : List Char -> Bool
  | [] => true
  | mark :: power =>
      let digits := match power with
        | '+' :: digits => digits
        | '-' :: digits => digits
        | digits => digits
      "eE".toList.contains mark && !digits.isEmpty && digits.all Char.isDigit

/-- A number without a sign. -/
def isNumber (text : List Char) : Bool :=
  let whole := text.takeWhile Char.isDigit
  let rest := text.dropWhile Char.isDigit
  let decimals := if rest.head? = some '.' then (rest.drop 1).takeWhile Char.isDigit else []
  let after := if rest.head? = some '.' then (rest.drop 1).dropWhile Char.isDigit else rest
  ["inf", "infinity", "nan"].contains (String.ofList (text.map Char.toLower)) ||
    (!(whole.isEmpty && decimals.isEmpty) && isExponent after)

def isValue : List Char -> Bool
  | '+' :: text => isNumber text
  | text => Pattern.isPattern text

/-- A field name, and behind the first equals sign a value up to the next. -/
def ofText? (text : String) : Option FieldTest :=
  match text.toList.splitOnP fun c => c == '=' with
  | [] => none
  | [name] => some ⟨String.ofList name, none⟩
  | name :: value :: _ =>
      if isValue value then some ⟨String.ofList name, some (String.ofList value)⟩ else none

end FieldTest
end ProcInspection
