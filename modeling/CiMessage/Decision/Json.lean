import CiMessage.Decision
import CiMessage.Json.Reader.Values
import CiMessage.Json.Reader.Variant

/-!
# Decisions as JSON

A decision is written as an object: its type, and then its fields. It is read from such an object with its members in
any order and members of other names among them, or from an array of the type and the fields. The text is read as
values first, and then the values are made into the fields.
-/

namespace CiMessage

open Json (Value Error Found Reader)

/-! ## Reasons -/

namespace SkipReason

/-- The name of a reason in JSON texts. -/
def tag : SkipReason → String
  | reserved => "reserved_by_job_parameter"
  | alreadySet => "already_set_in_environment"

/-- The names of the reasons. -/
def tags : List String := [tag reserved, tag alreadySet]

/-- The reason with a name. -/
def ofTag (t : String) : Except Error SkipReason :=
  if t = tag reserved then .ok reserved
  else if t = tag alreadySet then .ok alreadySet
  else .error (.unknownVariant t tags)

/-- The JSON value. -/
def toJson (r : SkipReason) : Value := .string r.tag

/-- The reason of a JSON text. -/
def ofJson (text : String) : Except Error SkipReason := (Reader.variant ofTag).parse text

/-- The reason of a JSON value: a name, or an object whose only key it is, with the value null or an empty object. -/
def ofValue (v : Value) : Except Error SkipReason :=
  match v with
  | .string t => ofTag t
  | .object [(t, v)] =>
    match ofTag t, v with
    | .error e, _ => .error e
    | .ok r, .null => .ok r
    | .ok r, .object [] => .ok r
    | .ok _, v => .error (.wrongType v.found "unit")
  | .object _ => .error (.wrongValue .map "map with a single key")
  | v => .error (.wrongType v.found "string or map")

end SkipReason

namespace Decision

/-! ## Writing -/

/-- The JSON value. -/
def toJson : Decision → Value
  | skip name reason => .object [("type", .string "skip"), ("name", .string name), ("reason", reason.toJson)]
  | inject name value => .object [("type", .string "inject_env"), ("name", .string name), ("value", .string value)]
  | redirect name value pointer file =>
    .object [("type", .string "redirect_to_file"), ("name", .string name), ("value", .string value),
      ("pointer_name", .string pointer), ("file_name", .string file)]

/-! ## Reading -/

/-- The types of decisions. -/
inductive Kind where
  | skip
  | inject
  | redirect
  deriving DecidableEq

/-- The name of a type in JSON texts. -/
def Kind.tag : Kind → String
  | skip => "skip"
  | inject => "inject_env"
  | redirect => "redirect_to_file"

/-- The type with a name. -/
def Kind.ofTag (t : String) : Except Error Kind :=
  if t = tag .skip then .ok .skip
  else if t = tag .inject then .ok .inject
  else if t = tag .redirect then .ok .redirect
  else .error (.unknownVariant t [tag .skip, tag .inject, tag .redirect])

/-- The fields of decisions. -/
inductive Field where
  | name
  | reason
  | value
  | pointer
  | file
  deriving DecidableEq

/-- The key of a field in JSON texts. -/
def Field.key : Field → String
  | name => "name"
  | reason => "reason"
  | value => "value"
  | pointer => "pointer_name"
  | file => "file_name"

/-- The fields of a type, in their order. -/
def Kind.fields : Kind → List Field
  | skip => [.name, .reason]
  | inject => [.name, .value]
  | redirect => [.name, .value, .pointer, .file]

/-- What is said to be expected of an array with too few fields. -/
def Kind.expected (k : Kind) : String :=
  let variant := match k with
    | skip => "Skip"
    | inject => "InjectEnv"
    | redirect => "RedirectToFile"
  s!"struct variant Decision::{variant} with {k.fields.length} elements"

/-- The fields read so far. -/
structure Draft where
  reason : Option SkipReason
  texts : Field → Option String

namespace Draft

/-- No fields. -/
def empty : Draft := ⟨none, fun _ => none⟩

/-- Has the field been read? -/
def has (d : Draft) : Field → Bool
  | .reason => d.reason.isSome
  | f => (d.texts f).isSome

/-- Makes a value into a field. -/
def put (d : Draft) (f : Field) (v : Value) : Except Error Draft :=
  match f, v with
  | .reason, v =>
    match SkipReason.ofValue v with
    | .ok r => .ok { d with reason := some r }
    | .error e => .error e
  | f, .string s => .ok { d with texts := fun g => if g = f then some s else d.texts g }
  | _, v => .error (.wrongType v.found "a string")

/-- A text field; its absence is an error. -/
def text (d : Draft) (f : Field) : Except Error String :=
  match d.texts f with
  | some s => .ok s
  | none => .error (.missingField f.key)

/-- The decision of the fields; the first one that is missing is reported. -/
def finish (d : Draft) (k : Kind) : Except Error Decision := do
  let name ← d.text .name
  match k with
  | .skip =>
    match d.reason with
    | some reason => return .skip name reason
    | none => throw (.missingField Field.reason.key)
  | .inject => return .inject name (← d.text .value)
  | .redirect => return .redirect name (← d.text .value) (← d.text .pointer) (← d.text .file)

/-- Takes the members of an object in their order; keys that name no field of the type are passed over. -/
def ofMembers (k : Kind) (d : Draft) : List (String × Value) → Except Error Draft
  | [] => .ok d
  | (key, v) :: rest =>
    match k.fields.find? fun f => f.key == key with
    | none => ofMembers k d rest
    | some f =>
      if d.has f then .error (.duplicateField key)
      else
        match d.put f v with
        | .ok d => ofMembers k d rest
        | .error e => .error e

/-- Takes the items of an array for the fields in their order; `length` is the number of items taken before. -/
def ofItems (k : Kind) (d : Draft) (length : Nat) : List Field → List Value → Except Error Draft
  | [], rest =>
    if rest.isEmpty then .ok d
    else .error (.wrongLength (length + rest.length) s!"{length} elements in sequence")
  | _ :: _, [] => .error (.wrongLength length k.expected)
  | f :: fields, v :: rest =>
    match d.put f v with
    | .ok d => ofItems k d (length + 1) fields rest
    | .error e => .error e

end Draft

/-- Reads the name of a type. -/
def kindReader : Reader Kind := (Reader.string "variant identifier").check Kind.ofTag

/-- Reads the member that follows a key of an object, into the type and the other members, last one first. -/
def memberReader (s : Option Kind × List (String × Value)) (key : String) :
    Reader (Option Kind × List (String × Value)) :=
  if key = "type" then
    if s.1.isSome then .fail (.duplicateField "type")
    else (Reader.afterColon kindReader).map fun k => (some k, s.2)
  else (Reader.afterColon (Reader.value (Json.depthLimit - 1))).map fun v => (s.1, (key, v) :: s.2)

/-- Reads an item of an array, into the type and the other items, last one first. -/
def itemReader (s : Option Kind × List Value) : Reader (Option Kind × List Value) :=
  match s.1 with
  | none => kindReader.map fun k => (some k, s.2)
  | some k => (Reader.value (Json.depthLimit - 1)).map fun v => (some k, v :: s.2)

/-- The decision of an object that is read. -/
def ofMembers (s : Option Kind × List (String × Value)) : Except Error Decision :=
  match s with
  | (none, _) => .error (.missingField "type")
  | (some k, members) =>
    match Draft.ofMembers k .empty members.reverse with
    | .ok d => d.finish k
    | .error e => .error e

/-- The decision of an array that is read. -/
def ofItems (s : Option Kind × List Value) : Except Error Decision :=
  match s with
  | (none, _) => .error (.missingField "type")
  | (some k, items) =>
    match Draft.ofItems k .empty 0 k.fields items.reverse with
    | .ok d => d.finish k
    | .error e => .error e

/-- Reads a decision. -/
def reader : Reader Decision := Reader.afterBlanks fun cs =>
  match cs with
  | [] => .error .endInValue
  | '\x7b' :: rest => ((Reader.members memberReader (none, [])).check ofMembers).past '\x7b' rest
  | '[' :: rest => ((Reader.items itemReader (none, [])).check ofItems).past '[' rest
  | cs => .error (Json.wrongTypeAt "internally tagged enum Decision" cs)

/-- The decision of a JSON text. -/
def ofJson (text : String) : Except Error Decision := reader.parse text

end Decision

end CiMessage
