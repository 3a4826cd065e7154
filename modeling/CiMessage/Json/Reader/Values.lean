import CiMessage.Json.Reader.Containers

/-!
# Values of any type

`Reader.value` reads a value of any type, with arrays and objects nested to a given depth at most.
-/

namespace CiMessage.Json

/-- How deep arrays and objects may be nested in a text that is read as a value. -/
def depthLimit : Nat := 127

namespace Reader

/-- Reads a value that is no array or object. -/
def scalar : Reader Value := fun cs =>
  match cs with
  | 'n' :: rest => keyword 'n' ['u', 'l', 'l'] .null rest
  | 't' :: rest => keyword 't' ['r', 'u', 'e'] (.boolean true) rest
  | 'f' :: rest => keyword 'f' ['a', 'l', 's', 'e'] (.boolean false) rest
  | '-' :: rest => ((numeral true).map .number).past '-' rest
  | '"' :: rest => (quotedString.map .string).past '"' rest
  | [] => .error .endInValue
  | c :: rest => if isDigit c then (numeral false).map .number (c :: rest) else .error .expectedValue

/-- Reads a value in which arrays and objects are nested at most `depth` deep. -/
def value (depth : Nat) : Reader Value := afterBlanks fun cs =>
  match cs with
  | '[' :: rest =>
    match depth with
    | 0 => .error .nestedTooDeep
    | depth + 1 =>
      ((items (fun read => (value depth).map (· :: read)) []).map fun read => .array read.reverse).past '[' rest
  | '\x7b' :: rest =>
    match depth with
    | 0 => .error .nestedTooDeep
    | depth + 1 =>
      let entries := members (fun read key => (afterColon (value depth)).map fun v => (key, v) :: read) []
      (entries.map fun read => .object read.reverse).past '\x7b' rest
  | cs => scalar cs

end Reader

end CiMessage.Json
