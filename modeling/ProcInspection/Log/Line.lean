import ProcInspection.Log.Event

namespace ProcInspection

/-!
Log lines.

A line for people is the level, the message and the fields.  A line for
machines is a document with the same contents and the source.  Times are not
part of either: they are added by whoever writes the line out.
-/

namespace LogValue

def text : LogValue -> String
  | .number value => Decimal.text value
  | .quoted value => "\"" ++ value ++ "\""
  | .shown value => value

def json : LogValue -> Json
  | .number value => .number value
  | .quoted value => .text value
  | .shown value => .text value

end LogValue

namespace LogEvent

def fieldText (field : String × LogValue) : String :=
  field.1 ++ "=" ++ field.2.text

def humanLine (event : LogEvent) : String :=
  let words := event.message?.toList ++ event.fields.map fieldText
  String.ofList (Column.right 5 event.level.label.toList) ++ " " ++ " ".intercalate words

def json (event : LogEvent) : Json :=
  .object (
    ("level", .text event.level.label)
      :: event.fields.map (fun field => (field.1, field.2.json))
      ++ Json.optionalField "message" (event.message?.map Json.text)
      ++ [("target", .text event.source)])

end LogEvent
end ProcInspection
