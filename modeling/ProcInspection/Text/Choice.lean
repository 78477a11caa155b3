import ProcInspection.Text.Utf8

namespace ProcInspection

/-!
Choices by name.

A text names a choice exactly or, where that is asked for, without regard to
the case of ASCII letters.
-/

/-- ASCII letters in lower case, all else as it is. -/
def lowerAscii (text : String) : String :=
  String.ofList (text.toList.map Char.toLower)

namespace Choice

variable {α : Type}

def named? (nameOf : α -> String) (choices : List α) (ignoreCase : Bool) (text : String) :
    Option α :=
  choices.find? fun choice =>
    if ignoreCase then lowerAscii (nameOf choice) = lowerAscii text else nameOf choice = text

/-- What is said about a text that names none. -/
def errorMessage (text : String) : String :=
  "invalid variant: " ++ text

/-- The choice that bytes name exactly. -/
def ofBytes? (nameOf : α -> String) (choices : List α) (value : Bytes) : Option α :=
  (Utf8.decode? value).bind (named? nameOf choices false)

end Choice
end ProcInspection
