import CiMessage.Json.Reader.Scalars

/-!
# Names from a fixed list

`Reader.variant` reads one of several names.
-/

namespace CiMessage.Json.Reader

/-- Reads one of several names: a string, or an object whose only key it is, with the value null. -/
def variant {α : Type} (ofTag : String → Except Error α) : Reader α := afterBlanks fun cs =>
  match cs with
  | [] => .error .endInValue
  | '"' :: rest => ((string "variant identifier").check ofTag) ('"' :: rest)
  | '\x7b' :: rest =>
    match skipBlanks rest with
    | [] => .error .endInObject
    | '"' :: _ =>
      match ((string "variant identifier").check ofTag).bind (fun a => (afterColon unit).map fun _ => a) rest with
      | .error e => .error e
      | .ok r =>
        match hb : skipBlanks r.rest with
        | [] => .error .endInObject
        | '\x7d' :: rest' => .ok ⟨r.value, rest', by
            have := length_lt_of_skipBlanks hb
            have := r.shorter
            rw [List.length_cons]
            omega⟩
        | _ :: _ => .error .expectedValue
    | '\x7d' :: _ => .error .expectedValue
    | _ :: _ => .error .keyNotString
  | _ :: _ => .error .expectedValue

end CiMessage.Json.Reader
