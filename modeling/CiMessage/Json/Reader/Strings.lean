import CiMessage.Json.Reader
import CiMessage.Text.Hexadecimal

/-!
# Strings

A string stands between double quotes. A backslash begins an escape: a letter, or `u` with four hexadecimal digits,
where a high surrogate has to be followed by an escaped low one. Control characters have to be escaped.
-/

namespace CiMessage.Json

/-- The number of four hexadecimal digits. -/
def hexQuad? (a b c d : Char) : Option Nat := do
  let a ← Text.hexValue? a
  let b ← Text.hexValue? b
  let c ← Text.hexValue? c
  let d ← Text.hexValue? d
  return ((a * 16 + b) * 16 + c) * 16 + d

/-- Reads four hexadecimal digits. Fewer than four bytes of text are an early end, whatever they hold. -/
def hexQuad : Reader Nat := fun cs =>
  match cs with
  | a :: b :: c :: d :: rest =>
    match hexQuad? a b c d with
    | some n => .ok ⟨n, rest, by simp only [List.length_cons]; omega⟩
    | none => .error .invalidEscape
  | short => if (String.ofList short).utf8ByteSize < 4 then .error .endInString else .error .invalidEscape

/-- Is this number a high surrogate? -/
def isHighSurrogate (n : Nat) : Bool := 0xD800 ≤ n && n ≤ 0xDBFF

/-- Is this number a low surrogate? -/
def isLowSurrogate (n : Nat) : Bool := 0xDC00 ≤ n && n ≤ 0xDFFF

/-- The character of two surrogates. -/
def joinSurrogates (high low : Nat) : Char := Char.ofNat ((high - 0xD800) * 0x400 + (low - 0xDC00) + 0x10000)

/-- Reads the low surrogate that has to follow a high one. -/
def lowSurrogate (high : Nat) : Reader Char := fun cs =>
  match cs with
  | [] => .error .endInString
  | '\\' :: rest =>
    match rest with
    | [] => .error .endInString
    | 'u' :: rest' =>
      match hexQuad rest' with
      | .error e => .error e
      | .ok r =>
        if isLowSurrogate r.value then
          .ok ((r.map (joinSurrogates high)).widen (by simp only [List.length_cons]; omega))
        else .error .loneSurrogate
    | _ :: _ => .error .unpairedSurrogate
  | _ :: _ => .error .unpairedSurrogate

/-- Reads an escape by number, after its `u`. -/
def numberedEscape : Reader Char := fun cs =>
  match hexQuad cs with
  | .error e => .error e
  | .ok r =>
    if isLowSurrogate r.value then .error .loneSurrogate
    else if isHighSurrogate r.value then
      match lowSurrogate r.value r.rest with
      | .ok s => .ok (s.widen (Nat.le_of_lt r.shorter))
      | .error e => .error e
    else .ok (r.map Char.ofNat)

/-- The character that a letter after a backslash stands for. -/
def escapeLetter? : Char → Option Char
  | '"' => some '"'
  | '\\' => some '\\'
  | '/' => some '/'
  | 'b' => some '\x08'
  | 'f' => some '\x0c'
  | 'n' => some '\n'
  | 'r' => some '\r'
  | 't' => some '\t'
  | _ => none

/-- Reads an escape, after its backslash. -/
def escape : Reader Char := fun cs =>
  match cs with
  | [] => .error .endInString
  | 'u' :: rest => numberedEscape.past 'u' rest
  | c :: rest =>
    match escapeLetter? c with
    | some d => .ok (.one d c rest)
    | none => .error .invalidEscape

/-- Reads the characters of a string up to its closing quote; `read` holds those read before, last one first. -/
def stringBody (read : List Char) (cs : List Char) : Except Error (List Char × List Char) :=
  match cs with
  | [] => .error .endInString
  | '"' :: rest => .ok (read.reverse, rest)
  | '\\' :: rest =>
    match escape rest with
    | .ok r => stringBody (r.value :: read) r.rest
    | .error e => .error e
  | c :: rest => if c < ' ' then .error .controlCharacter else stringBody (c :: read) rest
  termination_by cs.length
  decreasing_by
    · have := r.shorter
      simp only [List.length_cons]
      omega
    · exact Nat.lt_succ_self _

/-- A string leaves less than it was given. -/
theorem stringBody_shorter {read cs s rest : List Char} (h : stringBody read cs = .ok (s, rest)) :
    rest.length < cs.length := by
  fun_induction stringBody read cs with
  | case1 => cases h
  | case2 => cases h; exact Nat.lt_succ_self _
  | case3 read rest' r hr ih =>
    have := ih h
    have := r.shorter
    simp only [List.length_cons]
    omega
  | case4 => cases h
  | case5 => cases h
  | case6 read c rest' _ _ _ ih =>
    have := ih h
    simp only [List.length_cons]
    omega

/-- Reads a string, after its opening quote. -/
def quotedString : Reader String := fun cs =>
  match h : stringBody [] cs with
  | .ok (s, rest) => .ok ⟨String.ofList s, rest, stringBody_shorter h⟩
  | .error e => .error e

end CiMessage.Json
