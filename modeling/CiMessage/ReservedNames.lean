import CiMessage.SortedMap
import CiMessage.Json.Reader.Scalars
import CiMessage.Json.Reader.Containers

/-!
# Reserved names

The names of a job's own parameters. They are a set with one listing, ascending and without repetition, whatever list
they came from; its JSON text is that listing.
-/

namespace CiMessage

/-- A set of names that variables of a message may not take. -/
structure ReservedNames where
  table : SortedMap String Unit
  deriving DecidableEq

namespace ReservedNames

/-- No names. -/
def empty : ReservedNames := ⟨∅⟩

/-- One more name. -/
def insert (r : ReservedNames) (name : String) : ReservedNames := ⟨r.table.insert name ()⟩

/-- The names of a list. -/
def ofList (names : List String) : ReservedNames := names.foldl insert empty

/-- The names of a parameter list; a missing list reserves nothing. -/
def ofParams (params : Option (List String)) : ReservedNames := ofList (params.getD [])

/-- Is the name reserved? -/
def contains (r : ReservedNames) (name : String) : Bool := r.table.contains name

/-- A name is reserved after one more was when it is that one, or was reserved. -/
@[simp] theorem contains_insert (r : ReservedNames) (name x : String) :
    (r.insert name).contains x = (decide (x = name) || r.contains x) := by
  rw [contains, insert, SortedMap.contains, SortedMap.get?_insert, contains, SortedMap.contains]
  by_cases hx : x = name <;> simp [hx]

/-- The names in ascending order. -/
def toList (r : ReservedNames) : List String := r.table.keys

/-- How many names there are. -/
def size (r : ReservedNames) : Nat := r.table.size

/-- The JSON value: an array of the names in ascending order. -/
def toJson (r : ReservedNames) : Json.Value := .array (r.toList.map .string)

/-- Reads an array of names. -/
def reader : Json.Reader ReservedNames := Json.Reader.afterBlanks fun cs =>
  match cs with
  | [] => .error .endInValue
  | '[' :: rest =>
    (Json.Reader.items (fun r => (Json.Reader.string "a string").map r.insert) empty).past '[' rest
  | cs => .error (Json.wrongTypeAt "a sequence" cs)

/-- The names of a JSON text. -/
def ofJson (text : String) : Except Json.Error ReservedNames := reader.parse text

end ReservedNames

end CiMessage
