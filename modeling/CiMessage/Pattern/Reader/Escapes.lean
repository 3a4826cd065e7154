import CiMessage.Pattern.Flags
import CiMessage.Text.Hexadecimal
import CiMessage.Text.Read

/-!
# Escapes in patterns

After a backslash a sign stands for itself, and a letter for a character, a class of characters or a place in the text.
-/

namespace CiMessage.Pattern

/-- What an escape stands for. -/
inductive Escape where
  /-- A character, perhaps by the two digits of a byte. -/
  | char (c : Char) (isByte : Bool)
  | chars (s : CharSet)
  | look (l : Look)

/-- A set with the letters of the other case, if case is ignored. That of letters beyond ASCII is not known, so there
it is refused for all sets with characters. -/
def Flags.fold? (fs : Flags) (s : CharSet) : Option CharSet :=
  if !fs .ignoreCase then some s
  else if !fs .unicode then some s.anyCase
  else if s.isBare then some s
  else none

/-- The complement of a set, if asked for. Where only ASCII characters are meant, it would hold parts of others, so it
is refused. -/
def Flags.negate? (fs : Flags) (negated : Bool) (s : CharSet) : Option CharSet :=
  if !negated then some s else if fs .unicode then some s.complement else none

/-! ## Classes -/

/-- The ASCII white space. -/
def asciiBlanks : CharSet := .ofList ['\t', '\n', '\x0b', '\x0c', '\r', ' ']

/-- The ASCII digits. -/
def asciiDigits : CharSet := .range '0' '9'

/-- The ASCII letters. -/
def asciiLetters : CharSet := .union (.range 'A' 'Z') (.range 'a' 'z')

/-- The ASCII characters of words. -/
def asciiWord : CharSet := .union (.union asciiDigits asciiLetters) (.single '_')

/-- The class of a small letter. The classes of characters beyond ASCII are not known. -/
def Flags.class? (fs : Flags) (c : Char) : Option CharSet :=
  if fs .unicode then none
  else
    match c with
    | 'd' => some asciiDigits
    | 's' => some asciiBlanks
    | 'w' => some asciiWord
    | _ => none

/-! ## Characters by their numbers -/

/-- Reads hexadecimal digits after `n`, which stands for those before. -/
def hexDigits (fs : Flags) : (count n : Nat) → (cs : List Char) →
    Option { r : Nat × List Char // r.2.length ≤ cs.length }
  | 0, n, cs => some ⟨(n, cs), Nat.le_refl _⟩
  | count + 1, n, cs =>
    match h : fs.meaningful cs with
    | [] => none
    | c :: rest =>
      match Text.hexValue? c with
      | none => none
      | some d =>
        match hexDigits fs count (16 * n + d) rest with
        | none => none
        | some ⟨r, hr⟩ => some ⟨r, Nat.le_trans hr (Nat.le_of_lt (Flags.length_lt_of_meaningful h))⟩

/-- How many digits follow a letter. -/
def hexCount? : Char → Option Nat
  | 'x' => some 2
  | 'u' => some 4
  | 'U' => some 8
  | _ => none

/-- Reads the character of a number with so many hexadecimal digits. -/
def hexChar (fs : Flags) (count : Nat) (c : Char) (cs : List Char) : Option (Read Escape (c :: cs)) :=
  match hexDigits fs count 0 cs with
  | none => none
  | some ⟨(n, rest), h⟩ =>
    if n.isValidChar then some ⟨.char (Char.ofNat n) (count == 2), rest, Nat.lt_succ_of_le h⟩ else none

/-! ## Places and single characters -/

/-- The place of a letter or an angle bracket. The places of words are those of ASCII words only. -/
def Flags.place? (fs : Flags) : Char → Option Look
  | 'A' => some .textStart
  | 'z' => some .textEnd
  | c =>
    if fs .unicode then none
    else
      match c with
      | 'b' => some .wordEdge
      | 'B' => some .noWordEdge
      | '<' => some .wordStart
      | '>' => some .wordEnd
      | _ => none

/-- The control character of a letter. -/
def control? : Char → Option Char
  | 'a' => some '\x07'
  | 'f' => some '\x0c'
  | 't' => some '\t'
  | 'n' => some '\n'
  | 'r' => some '\r'
  | 'v' => some '\x0b'
  | _ => none

/-- Can this character be escaped to stand for itself? -/
def isSign (c : Char) : Bool := c.toNat < 0x80 && !c.isAlphanum && c != '<' && c != '>'

/-- Reads what follows a backslash. -/
def escape (fs : Flags) (cs : List Char) : Option (Read Escape cs) :=
  match cs with
  | [] => none
  | c :: rest =>
    match hexCount? c with
    | some count => hexChar fs count c rest
    | none =>
      match fs.class? c with
      | some s => some (.one (.chars s) c rest)
      | none =>
        if isSign c then some (.one (.char c false) c rest)
        else
          match control? c, fs.place? c with
          | some d, _ => some (.one (.char d false) c rest)
          | none, some l => some (.one (.look l) c rest)
          | none, none => none

end CiMessage.Pattern
