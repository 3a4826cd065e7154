import CiMessage.Json.Number
import CiMessage.Text.Quoted

/-!
# What can be wrong with a JSON text

`Error` lists the causes in three groups: the text ends too early, its grammar is broken, or its values have not the
wanted shape. `Error.message` is the wording of each.
-/

namespace CiMessage.Json

/-- What stands where something else is wanted. -/
inductive Found where
  | null
  | boolean (b : Bool)
  | number (n : Number)
  | string (s : String)
  | sequence
  | map
  deriving DecidableEq

/-- The wording of a found value; scalars are shown. -/
def Found.describe : Found → String
  | null => "null"
  | boolean b => s!"boolean `{b}`"
  | number (.natural n) => s!"integer `{n}`"
  | number (.negative n) => s!"integer `-{n}`"
  | number (.double sign x) => "floating point `" ++ Number.text (.double sign x) ++ "`"
  | string s => "string " ++ Text.quote s
  | sequence => "sequence"
  | map => "map"

/-- The cause of a refusal. -/
inductive Error where
  | endInValue
  | endInList
  | endInObject
  | endInString
  | expectedColon
  | expectedListSeparator
  | expectedObjectSeparator
  | expectedIdentifier
  | expectedValue
  | invalidEscape
  | invalidNumber
  | numberOutOfRange
  | controlCharacter
  | keyNotString
  | loneSurrogate
  | unpairedSurrogate
  | trailingComma
  | trailingCharacters
  | nestedTooDeep
  | wrongType (found : Found) (expected : String)
  | wrongValue (found : Found) (expected : String)
  | wrongLength (length : Nat) (expected : String)
  | missingField (name : String)
  | duplicateField (name : String)
  | unknownVariant (name : String) (known : List String)
  | undecodablePath
  deriving DecidableEq

namespace Error

/-- The three groups of causes. -/
inductive Category where
  | ended
  | grammar
  | shape
  deriving DecidableEq

/-- The group of a cause. -/
def category : Error → Category
  | endInValue | endInList | endInObject | endInString => .ended
  | expectedColon | expectedListSeparator | expectedObjectSeparator | expectedIdentifier | expectedValue => .grammar
  | invalidEscape | invalidNumber | numberOutOfRange | controlCharacter | keyNotString => .grammar
  | loneSurrogate | unpairedSurrogate | trailingComma | trailingCharacters | nestedTooDeep => .grammar
  | wrongType .. | wrongValue .. | wrongLength .. => .shape
  | missingField .. | duplicateField .. | unknownVariant .. | undecodablePath => .shape

/-- The known names of a message: two joined by "or", more as a list. -/
def listNames (names : List String) : String :=
  match names.map fun n => s!"`{n}`" with
  | [a] => a
  | [a, b] => s!"{a} or {b}"
  | quoted => "one of " ++ String.intercalate ", " quoted

/-- The wording of a cause. -/
def message : Error → String
  | endInValue => "EOF while parsing a value"
  | endInList => "EOF while parsing a list"
  | endInObject => "EOF while parsing an object"
  | endInString => "EOF while parsing a string"
  | expectedColon => "expected `:`"
  | expectedListSeparator => "expected `,` or `]`"
  | expectedObjectSeparator => "expected `,` or `\x7d`"
  | expectedIdentifier => "expected ident"
  | expectedValue => "expected value"
  | invalidEscape => "invalid escape"
  | invalidNumber => "invalid number"
  | numberOutOfRange => "number out of range"
  | controlCharacter => "control character (\\u0000-\\u001F) found while parsing a string"
  | keyNotString => "key must be a string"
  | loneSurrogate => "lone leading surrogate in hex escape"
  | unpairedSurrogate => "unexpected end of hex escape"
  | trailingComma => "trailing comma"
  | trailingCharacters => "trailing characters"
  | nestedTooDeep => "recursion limit exceeded"
  | wrongType found expected => "invalid type: " ++ found.describe ++ ", expected " ++ expected
  | wrongValue found expected => "invalid value: " ++ found.describe ++ ", expected " ++ expected
  | wrongLength length expected => s!"invalid length {length}, expected {expected}"
  | missingField name => s!"missing field `{name}`"
  | duplicateField name => s!"duplicate field `{name}`"
  | unknownVariant name known => s!"unknown variant `{name}`, expected " ++ listNames known
  | undecodablePath => "path contains invalid UTF-8 characters"

end Error

end CiMessage.Json
