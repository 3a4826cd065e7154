import CiMessage.Event
import CiMessage.Json.Value

/-!
# Lines of a log

An event is logged as a text or as a JSON object. While a run is contributed to, the line names it.
-/

namespace CiMessage.Log

/-- A line of a log. -/
inductive Line where
  | text (s : String)
  | json (v : Json.Value)

/-- The written line. -/
def Line.written : Line → String
  | text s => s
  | json v => v.text

/-- The text of a field. -/
def fieldText (key : String) : Event.FieldValue → String
  | .text s => key ++ "=" ++ s
  | .number n => s!"{key}={n}"

/-- The text of an event: its message, its name between quotes, and its fields. -/
def eventText (e : Event) : String :=
  String.intercalate " "
    (e.message?.toList ++ (e.name?.toList.map fun n => Event.nameKey ++ "=\"" ++ n ++ "\"") ++
      e.fields.map fun f => fieldText f.1 f.2)

/-- The line of an event as a text. -/
def textLine (e : Event) (run : Option String) : Line :=
  let span := run.map fun id => Record.spanName ++ "\x7b" ++ Record.runKey ++ "=" ++ id ++ "\x7d: "
  .text (e.level.name ++ " " ++ span.getD "" ++ eventText e)

/-- The JSON value of a field. -/
def fieldJson : Event.FieldValue → Json.Value
  | .text s => .string s
  | .number n => .number (.natural n)

/-- The fields of an event as members of a JSON object. -/
def fieldMembers (e : Event) : List (String × Json.Value) :=
  (e.message?.toList.map fun m => (Event.messageKey, .string m)) ++
    (e.name?.toList.map fun n => (Event.nameKey, .string n)) ++ e.fields.map fun f => (f.1, fieldJson f.2)

/-- The line of an event as a JSON object. -/
def jsonLine (e : Event) (run : Option String) : Line :=
  let span := run.map fun id => Json.Value.object [("name", .string Record.spanName), (Record.runKey, .string id)]
  .json (.object ([("level", .string e.level.name), ("fields", .object (fieldMembers e))] ++
    (span.toList.flatMap fun s => [("span", s), ("spans", .array [s])])))

end CiMessage.Log
