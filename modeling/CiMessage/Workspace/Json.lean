import CiMessage.Workspace
import CiMessage.Json.Reader.Values
import CiMessage.Json.Reader.Variant
import CiMessage.Json.Reader.Skip

/-!
# Paths and handles as JSON

A path is written as a string, which not every path has. A handle is written as an object of its kind and its
directory. It is read from such an object with its members in any order and members of other names among them, or from
an array of the kind and the directory.
-/

namespace CiMessage

open Json (Value Error Reader)

/-! ## Paths -/

namespace Path

/-- The JSON value: a string. -/
def toJson (p : Path) : Except Error Value :=
  match p.text? with
  | some s => .ok (.string s)
  | none => .error .undecodablePath

/-- What is said to be expected where a path stands. -/
def expected : String := "path string"

/-- Reads a path. -/
def reader : Reader Path := (Reader.string expected).map ofText

/-- The path of a JSON text. -/
def ofJson (text : String) : Except Error Path := reader.parse text

end Path

namespace Workspace.Handle

/-- The ways in which a working directory is known. -/
inductive Kind where
  | direct
  | rooted
  deriving DecidableEq

/-- The name of a kind in JSON texts. -/
def Kind.tag : Kind → String
  | direct => "direct"
  | rooted => "rooted"

/-- The kind with a name. -/
def Kind.ofTag (t : String) : Except Error Kind :=
  if t = tag .direct then .ok .direct
  else if t = tag .rooted then .ok .rooted
  else .error (.unknownVariant t [tag .direct, tag .rooted])

/-- The handle of a kind with a directory. -/
def ofKind (k : Kind) (dir : Option Path) : Handle :=
  match k with
  | .direct => direct dir
  | .rooted => rooted dir

/-- The kind of a handle. -/
def kind : Handle → Kind
  | direct _ => .direct
  | rooted _ => .rooted

/-- The keys of the two members. -/
def kindKey : String := "kind"

@[inherit_doc kindKey]
def dirKey : String := "dir"

/-- The JSON value. -/
def toJson (h : Handle) : Except Error Value := do
  let dir ← match h.dir with
    | some p => p.toJson
    | none => pure .null
  return .object [(kindKey, .string h.kind.tag), (dirKey, dir)]

/-- The members of an object read so far. -/
inductive Draft where
  | empty
  | kind (k : Kind)
  /-- The directory came first; it is made into a path when the kind is known. -/
  | dir (v : Value)
  | whole (h : Handle)

namespace Draft

/-- The handle of a kind and a value that stands for its directory. -/
def ofValue (v : Value) (k : Kind) : Except Error Draft :=
  match v with
  | .null => .ok (whole (ofKind k none))
  | .string s => .ok (whole (ofKind k (some (Path.ofText s))))
  | v => .error (.wrongType v.found Path.expected)

/-- Reads the member that follows a key. A key that names no member is passed over. -/
def memberReader (d : Draft) (key : String) : Reader Draft :=
  if key = kindKey then
    match d with
    | empty => (Reader.afterColon (Reader.variant Kind.ofTag)).map kind
    | dir v => (Reader.afterColon (Reader.variant Kind.ofTag)).check (ofValue v)
    | kind _ | whole _ => .fail (.duplicateField kindKey)
  else if key = dirKey then
    match d with
    | empty => (Reader.afterColon (Reader.value (Json.depthLimit - 1))).map dir
    | kind k => (Reader.afterColon (Reader.optional Path.reader)).map fun p => whole (ofKind k p)
    | dir _ | whole _ => .fail (.duplicateField dirKey)
  else (Reader.afterColon Reader.skip).map fun _ => d

/-- The handle of an object; a missing directory is none. -/
def finish : Draft → Except Error Handle
  | empty | dir _ => .error (.missingField kindKey)
  | kind k => .ok (ofKind k none)
  | whole h => .ok h

end Draft

/-- What is said to be expected where a handle stands. -/
def expected : String := "adjacently tagged enum WorkspaceHandle"

/-- The handle of an array, of which `count` items are read. -/
def Draft.finishItems (d : Draft) (count : Nat) : Except Error Handle :=
  if count < 2 then .error (.wrongLength count expected) else d.finish

/-- Reads the items of an array. -/
def itemReaders : List (Draft → Reader Draft) :=
  [fun _ => ((Reader.string "variant identifier").check Kind.ofTag).map .kind,
    fun d => (Reader.optional Path.reader).map fun p =>
      match d with
      | .kind k => .whole (ofKind k p)
      | d => d]

/-- Reads a handle. -/
def reader : Reader Handle := Reader.afterBlanks fun cs =>
  match cs with
  | [] => .error .endInValue
  | '\x7b' :: rest => ((Reader.members Draft.memberReader .empty).check Draft.finish).past '\x7b' rest
  | '[' :: rest => (Reader.placed itemReaders .empty Draft.finishItems).past '[' rest
  | cs => .error (Json.wrongTypeAt expected cs)

/-- The handle of a JSON text. -/
def ofJson (text : String) : Except Error Handle := reader.parse text

end Workspace.Handle

end CiMessage
