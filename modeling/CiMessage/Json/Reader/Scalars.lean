import CiMessage.Json.Reader.Strings
import CiMessage.Json.Reader.Numerals

/-!
# Values of a wanted type

Readers of booleans, strings and nulls. Where a value of another type stands, a scalar is read to its end first, so
that what is wrong in it comes before its being of the wrong type; of an array or object only the bracket counts.
-/

namespace CiMessage.Json

/-- What is wrong with a value that is not of the wanted type; the text starts with the value. -/
def wrongTypeAt (expected : String) (cs : List Char) : Error :=
  let scalar {α : Type} (found : α → Found) (result : Except Error α) : Error :=
    match result with
    | .ok a => .wrongType (found a) expected
    | .error e => e
  match cs with
  | 'n' :: rest => scalar (fun _ => .null) (word ['u', 'l', 'l'] rest)
  | 't' :: rest => scalar (fun _ => .boolean true) (word ['r', 'u', 'e'] rest)
  | 'f' :: rest => scalar (fun _ => .boolean false) (word ['a', 'l', 's', 'e'] rest)
  | '-' :: rest => scalar (fun r => .number r.1) (numeralBody true rest)
  | '"' :: rest => scalar (fun r => .string (String.ofList r.1)) (stringBody [] rest)
  | '[' :: _ => .wrongType .sequence expected
  | '\x7b' :: _ => .wrongType .map expected
  | [] => .endInValue
  | c :: rest => if isDigit c then scalar (fun r => .number r.1) (numeralBody false (c :: rest)) else .expectedValue

namespace Reader

/-- Reads a boolean. -/
def boolean : Reader Bool := afterBlanks fun cs =>
  match cs with
  | [] => .error .endInValue
  | 't' :: rest => keyword 't' ['r', 'u', 'e'] true rest
  | 'f' :: rest => keyword 'f' ['a', 'l', 's', 'e'] false rest
  | cs => .error (wrongTypeAt "a boolean" cs)

/-- Reads a string; `expected` says what it stands for. -/
def string (expected : String) : Reader String := afterBlanks fun cs =>
  match cs with
  | [] => .error .endInValue
  | '"' :: rest => quotedString.past '"' rest
  | cs => .error (wrongTypeAt expected cs)

/-- Reads a null. -/
def unit : Reader Unit := afterBlanks fun cs =>
  match cs with
  | [] => .error .endInValue
  | 'n' :: rest => keyword 'n' ['u', 'l', 'l'] () rest
  | cs => .error (wrongTypeAt "unit" cs)

/-- Reads a null as `none`, and anything else with a reader. -/
def optional {α : Type} (p : Reader α) : Reader (Option α) := afterBlanks fun cs =>
  match cs with
  | 'n' :: rest => keyword 'n' ['u', 'l', 'l'] none rest
  | cs => p.map some cs

/-- Reads a colon and then a value. -/
def afterColon {α : Type} (p : Reader α) : Reader α := afterBlanks fun cs =>
  match cs with
  | [] => .error .endInObject
  | ':' :: rest => p.past ':' rest
  | _ => .error .expectedColon

end Reader

end CiMessage.Json
