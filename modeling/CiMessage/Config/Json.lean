import CiMessage.Config
import CiMessage.Json.Reader.Scalars
import CiMessage.Json.Reader.Skip

/-!
# Configurations as JSON

A configuration is written as an object of its three fields. It is read from an object that has some of them, in any
order and with members of other names among them, or from an array of them in their order, of which the last ones may
be left out. What is left out has its default.
-/

namespace CiMessage.Config

open Json (Value Error Reader)

/-- The JSON value. -/
def toJson (c : Config) : Value :=
  .object [(redirectKey, .boolean c.redirectEnabled), (verifyKey, .boolean c.verifyAfterWrite),
    (subdirKey, .string c.workspaceSubdir)]

/-- The fields read so far. -/
structure Draft where
  redirectEnabled : Option Bool
  verifyAfterWrite : Option Bool
  workspaceSubdir : Option String

namespace Draft

/-- No fields. -/
def empty : Draft := ⟨none, none, none⟩

/-- Reads the field of redirection. -/
def redirectReader (d : Draft) : Reader Draft := Reader.boolean.map fun b => { d with redirectEnabled := some b }

/-- Reads the field of verification. -/
def verifyReader (d : Draft) : Reader Draft := Reader.boolean.map fun b => { d with verifyAfterWrite := some b }

/-- Reads the field of the workspace. -/
def subdirReader (d : Draft) : Reader Draft :=
  (Reader.string "a string").map fun s => { d with workspaceSubdir := some s }

/-- Reads the member that follows a key. A field may come once only; a key that names no field is passed over. -/
def memberReader (d : Draft) (key : String) : Reader Draft :=
  let once (seen : Bool) (field : Reader Draft) : Reader Draft :=
    if seen then .fail (.duplicateField key) else Reader.afterColon field
  if key = redirectKey then once d.redirectEnabled.isSome d.redirectReader
  else if key = verifyKey then once d.verifyAfterWrite.isSome d.verifyReader
  else if key = subdirKey then once d.workspaceSubdir.isSome d.subdirReader
  else (Reader.afterColon Reader.skip).map fun _ => d

/-- The configuration of the fields, with defaults for the others. -/
def finish (d : Draft) : Config :=
  ⟨d.redirectEnabled.getD default.redirectEnabled, d.verifyAfterWrite.getD default.verifyAfterWrite,
    d.workspaceSubdir.getD default.workspaceSubdir⟩

end Draft

/-- Reads the items of an array. -/
def itemReaders : List (Draft → Reader Draft) := [Draft.redirectReader, Draft.verifyReader, Draft.subdirReader]

/-- Reads a configuration. -/
def reader : Reader Config := Reader.afterBlanks fun cs =>
  match cs with
  | [] => .error .endInValue
  | '\x7b' :: rest => ((Reader.members Draft.memberReader .empty).map Draft.finish).past '\x7b' rest
  | '[' :: rest => (Reader.placed itemReaders .empty fun d _ => .ok d.finish).past '[' rest
  | cs => .error (Json.wrongTypeAt "struct ContributorConfig" cs)

/-- The configuration of a JSON text, if it is accepted. -/
def ofJson (text : String) : Except ConfigError Config :=
  match reader.parse text with
  | .ok c => c.validate
  | .error e => .error (.json e)

end CiMessage.Config
