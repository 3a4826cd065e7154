import CiMessage.SortedMap

/-!
# Environments

The variables that are set for a run. A variable set to the empty text is set. Contributions look variables up and set
them but never list them, so a hash map, an ordered map and the library's own kind of environment are all told by the
values of their names, and one map stands for each of them.
-/

namespace CiMessage

/-- Variables by name. -/
abbrev Environment := SortedMap String String

namespace Environment

/-- Is the variable set? -/
def isSet (env : Environment) (name : String) : Bool := env.contains name

/-- Sets a variable. -/
def set (env : Environment) (name value : String) : Environment := env.insert name value

/-- A variable is set when it has a value. -/
theorem isSet_eq_isSome (env : Environment) (name : String) : env.isSet name = (env.get? name).isSome := rfl

/-- A variable that is not set has no value. -/
theorem isSet_eq_false_iff {env : Environment} {name : String} : env.isSet name = false ↔ env.get? name = none := by
  rw [isSet_eq_isSome, Option.isSome_eq_false_iff, Option.isNone_iff_eq_none]

theorem isSet_of_get? {env : Environment} {name value : String} (h : env.get? name = some value) :
    env.isSet name = true := by
  rw [isSet_eq_isSome, h]
  rfl

/-- **Lookup after a variable was set.** -/
@[simp] theorem get?_set (env : Environment) (name value x : String) :
    (env.set name value).get? x = if x = name then some value else env.get? x :=
  SortedMap.get?_insert env name value x

@[simp] theorem isSet_set (env : Environment) (name value x : String) :
    (env.set name value).isSet x = (decide (x = name) || env.isSet x) := by
  rw [isSet_eq_isSome, get?_set, isSet_eq_isSome]
  by_cases hx : x = name <;> simp [hx]

end Environment

end CiMessage
