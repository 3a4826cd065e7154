/-!
# SHA-256

The digest of a byte string as FIPS 180-4 defines it, written as 64 small hexadecimal digits by `Sha256.digest`.
-/

namespace CiMessage.Sha256

/-- The round constants. -/
def roundConstants : Vector UInt32 64 := #v[
  0x428a2f98, 0x71374491, 0xb5c0fbcf, 0xe9b5dba5, 0x3956c25b, 0x59f111f1, 0x923f82a4, 0xab1c5ed5,
  0xd807aa98, 0x12835b01, 0x243185be, 0x550c7dc3, 0x72be5d74, 0x80deb1fe, 0x9bdc06a7, 0xc19bf174,
  0xe49b69c1, 0xefbe4786, 0x0fc19dc6, 0x240ca1cc, 0x2de92c6f, 0x4a7484aa, 0x5cb0a9dc, 0x76f988da,
  0x983e5152, 0xa831c66d, 0xb00327c8, 0xbf597fc7, 0xc6e00bf3, 0xd5a79147, 0x06ca6351, 0x14292967,
  0x27b70a85, 0x2e1b2138, 0x4d2c6dfc, 0x53380d13, 0x650a7354, 0x766a0abb, 0x81c2c92e, 0x92722c85,
  0xa2bfe8a1, 0xa81a664b, 0xc24b8b70, 0xc76c51a3, 0xd192e819, 0xd6990624, 0xf40e3585, 0x106aa070,
  0x19a4c116, 0x1e376c08, 0x2748774c, 0x34b0bcb5, 0x391c0cb3, 0x4ed8aa4a, 0x5b9cca4f, 0x682e6ff3,
  0x748f82ee, 0x78a5636f, 0x84c87814, 0x8cc70208, 0x90befffa, 0xa4506ceb, 0xbef9a3f7, 0xc67178f2]

/-- The eight chaining words. -/
structure Chain where
  a : UInt32
  b : UInt32
  c : UInt32
  d : UInt32
  e : UInt32
  f : UInt32
  g : UInt32
  h : UInt32

/-- The chaining words before the first block. -/
def Chain.start : Chain :=
  ⟨0x6a09e667, 0xbb67ae85, 0x3c6ef372, 0xa54ff53a, 0x510e527f, 0x9b05688c, 0x1f83d9ab, 0x5be0cd19⟩

/-- The words of a chain from first to last. -/
def Chain.words (s : Chain) : List UInt32 := [s.a, s.b, s.c, s.d, s.e, s.f, s.g, s.h]

/-- Rotation to the right by fewer than 32 bits. -/
def rotate (x : UInt32) (n : UInt32) : UInt32 := (x >>> n) ||| (x <<< (32 - n))

/-- The byte at a position; positions past the end read as zero. -/
def byteAt (data : ByteArray) (i : Nat) : UInt8 := if h : i < data.size then data[i] else 0

/-- The big-endian word at a position. -/
def wordAt (data : ByteArray) (i : Nat) : UInt32 :=
  ((byteAt data i).toUInt32 <<< 24) ||| ((byteAt data (i + 1)).toUInt32 <<< 16) |||
    ((byteAt data (i + 2)).toUInt32 <<< 8) ||| (byteAt data (i + 3)).toUInt32

/-- The next word of a message schedule, from the words before it. -/
def nextWord (words : Array UInt32) : UInt32 :=
  let back (n : Nat) : UInt32 := words.getD (words.size - n) 0
  let x := back 15
  let y := back 2
  back 16 + (rotate x 7 ^^^ rotate x 18 ^^^ (x >>> 3)) + back 7 + (rotate y 17 ^^^ rotate y 19 ^^^ (y >>> 10))

/-- The 64 words of the schedule of the block that starts at a position. -/
def schedule (data : ByteArray) (start : Nat) : Array UInt32 :=
  let block := Nat.fold 16 (fun i _ words => words.push (wordAt data (start + 4 * i))) (Array.mkEmpty 64)
  Nat.fold 48 (fun _ _ words => words.push (nextWord words)) block

/-- One round. -/
def round (s : Chain) (k w : UInt32) : Chain :=
  let choice := (s.e &&& s.f) ^^^ (~~~s.e &&& s.g)
  let majority := (s.a &&& s.b) ^^^ (s.a &&& s.c) ^^^ (s.b &&& s.c)
  let t₁ := s.h + (rotate s.e 6 ^^^ rotate s.e 11 ^^^ rotate s.e 25) + choice + k + w
  let t₂ := (rotate s.a 2 ^^^ rotate s.a 13 ^^^ rotate s.a 22) + majority
  ⟨t₁ + t₂, s.a, s.b, s.c, s.d + t₁, s.e, s.f, s.g⟩

/-- The chain after one more block. -/
def compress (data : ByteArray) (s : Chain) (start : Nat) : Chain :=
  let words := schedule data start
  let t := Nat.fold 64 (fun i h t => round t roundConstants[i] (words.getD i 0)) s
  ⟨s.a + t.a, s.b + t.b, s.c + t.c, s.d + t.d, s.e + t.e, s.f + t.f, s.g + t.g, s.h + t.h⟩

/-- The message with a closing one bit, zeros, and its length in bits as eight bytes, in whole blocks of 64 bytes. -/
def pad (message : ByteArray) : ByteArray :=
  let zeros := (64 - (message.size + 9) % 64) % 64
  let bits := message.size * 8
  let length := (List.range 8).map fun i => UInt8.ofNat (bits >>> (56 - 8 * i))
  message ++ (0x80 :: List.replicate zeros 0 ++ length).toByteArray

/-- The chain after all blocks. -/
def chain (message : ByteArray) : Chain :=
  let data := pad message
  Nat.fold (data.size / 64) (fun i _ s => compress data s (64 * i)) Chain.start

/-- The hexadecimal digit of a number below sixteen. -/
def hexDigit (n : Nat) : Char := Nat.digitChar n

/-- A word as eight hexadecimal digits. -/
def hexWord (w : UInt32) : List Char := (List.range 8).map fun i => hexDigit ((w.toNat >>> (28 - 4 * i)) % 16)

/-- The digest of the bytes of a text. -/
def digest (s : String) : String := String.ofList ((chain s.toUTF8).words.flatMap hexWord)

end CiMessage.Sha256
