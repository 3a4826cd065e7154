/-!
# UTF-8

Texts as bytes and back. `encode` writes a text; `decodeUnits` reads bytes from left to right into characters and
undecodable parts, where an undecodable part is as long as possible: it ends before the first byte that cannot
continue the character begun. `decode?` refuses undecodable parts, `decodeLossy` shows each one as U+FFFD.
-/

namespace CiMessage.Utf8

/-- The bytes of a text. -/
def encode (s : String) : List UInt8 := s.toList.flatMap String.utf8EncodeChar

/-- The character that stands for an undecodable part. -/
def replacement : Char := '\uFFFD'

/-- A character begun: how many bytes are missing, the range of the next one, and the bits read so far. -/
structure Partial where
  missing : Nat
  low : UInt8
  high : UInt8
  bits : Nat
  deriving DecidableEq

/-- What a first byte says. -/
inductive Lead where
  | char (c : Char)
  | begins (p : Partial)
  | invalid
  deriving DecidableEq

/-- Reads a first byte. The ranges exclude overlong forms, surrogates and numbers above U+10FFFF. -/
def lead (b : UInt8) : Lead :=
  if b < 0x80 then .char (Char.ofNat b.toNat)
  else if b < 0xC2 then .invalid
  else if b < 0xE0 then .begins ⟨1, 0x80, 0xBF, b.toNat - 0xC0⟩
  else if b < 0xF0 then
    .begins ⟨2, if b = 0xE0 then 0xA0 else 0x80, if b = 0xED then 0x9F else 0xBF, b.toNat - 0xE0⟩
  else if b < 0xF5 then
    .begins ⟨3, if b = 0xF0 then 0x90 else 0x80, if b = 0xF4 then 0x8F else 0xBF, b.toNat - 0xF0⟩
  else .invalid

/-- The bits read so far, with six more from a continuing byte. -/
def Partial.with (p : Partial) (b : UInt8) : Nat := p.bits * 64 + b.toNat % 64

/-- Reads on, within a character begun or at the start of one; `none` stands for an undecodable part. -/
def decodeFrom : Option Partial → List UInt8 → List (Option Char)
  | none, [] => []
  | some _, [] => [none]
  | none, b :: rest =>
    match lead b with
    | .char c => some c :: decodeFrom none rest
    | .begins p => decodeFrom (some p) rest
    | .invalid => none :: decodeFrom none rest
  | some p, b :: rest =>
    if p.low ≤ b ∧ b ≤ p.high then
      if p.missing ≤ 1 then some (Char.ofNat (p.with b)) :: decodeFrom none rest
      else decodeFrom (some ⟨p.missing - 1, 0x80, 0xBF, p.with b⟩) rest
    else
      match lead b with
      | .char c => none :: some c :: decodeFrom none rest
      | .begins p => none :: decodeFrom (some p) rest
      | .invalid => none :: none :: decodeFrom none rest

/-- The characters and undecodable parts of a byte string. -/
def decodeUnits (bytes : List UInt8) : List (Option Char) := decodeFrom none bytes

/-- The text of a byte string, each undecodable part shown as U+FFFD. -/
def decodeLossy (bytes : List UInt8) : String :=
  String.ofList ((decodeUnits bytes).map (·.getD replacement))

/-- The text of a byte string that is all decodable. -/
def decode? (bytes : List UInt8) : Option String :=
  ((decodeUnits bytes).mapM id).map String.ofList

end CiMessage.Utf8
