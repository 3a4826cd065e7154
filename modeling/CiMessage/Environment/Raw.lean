import CiMessage.Environment
import CiMessage.Text.Utf8

/-!
# The environment of the process

Names and values are byte strings there, in the order in which they were set first. `capture` makes an environment of
them, with undecodable parts shown as U+FFFD; of names that then are the same the last one counts.
-/

namespace CiMessage

/-- The variables of a process, in their order. -/
structure Environment.Raw where
  entries : List (List UInt8 × List UInt8)

namespace Environment.Raw

/-- No variables. -/
def empty : Raw := ⟨[]⟩

/-- Replaces the value of a listed name in its place, or lists the name last. -/
def setEntry (name value : List UInt8) : List (List UInt8 × List UInt8) → List (List UInt8 × List UInt8)
  | [] => [(name, value)]
  | (n, v) :: rest => if n = name then (n, value) :: rest else (n, v) :: setEntry name value rest

/-- Sets a variable; one that is set keeps its place. -/
def set (r : Raw) (name value : List UInt8) : Raw := ⟨setEntry name value r.entries⟩

/-- The bytes of a variable. -/
def bytes? (r : Raw) (name : List UInt8) : Option (List UInt8) := r.entries.lookup name

/-- The value of a variable, unless it is undecodable. -/
def get? (r : Raw) (name : String) : Option String := (r.bytes? (Utf8.encode name)).bind Utf8.decode?

/-- The environment of the process. -/
def capture (r : Raw) : Environment :=
  SortedMap.ofList (r.entries.map fun v => (Utf8.decodeLossy v.1, Utf8.decodeLossy v.2))

end Environment.Raw

end CiMessage
