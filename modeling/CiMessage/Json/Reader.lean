import CiMessage.Json.Value
import CiMessage.Text.Read

/-!
# Reading JSON texts

A `Reader α` reads a value of type `α` at the beginning of a text and leaves the rest, which is always shorter; so a
reader that is repeated ends. Texts are read in one pass, and the first problem on the way is the answer.
-/

namespace CiMessage.Json

/-- Reads a value at the beginning of a text. -/
abbrev Reader (α : Type) := (cs : List Char) → Except Error (Read α cs)

namespace Reader

variable {α β σ : Type}

/-- Replaces the value that is read. -/
def map (f : α → β) (p : Reader α) : Reader β := fun cs =>
  match p cs with
  | .ok r => .ok (r.map f)
  | .error e => .error e

/-- Reads with a reader chosen by what was read before. -/
def bind (p : Reader α) (f : α → Reader β) : Reader β := fun cs =>
  match p cs with
  | .error e => .error e
  | .ok r =>
    match f r.value r.rest with
    | .ok s => .ok (s.widen (Nat.le_of_lt r.shorter))
    | .error e => .error e

/-- Checks and converts the value that is read. -/
def check (p : Reader α) (f : α → Except Error β) : Reader β := fun cs =>
  match p cs with
  | .error e => .error e
  | .ok r =>
    match f r.value with
    | .ok b => .ok (r.map fun _ => b)
    | .error e => .error e

/-- Reads after a character. -/
def past (c : Char) (p : Reader α) (cs : List Char) : Except Error (Read α (c :: cs)) :=
  match p cs with
  | .ok r => .ok (r.past c)
  | .error e => .error e

/-- Refuses every text. -/
def fail (e : Error) : Reader α := fun _ => .error e

end Reader

/-! ## White space -/

/-- Is this a space, a tab, a newline or a carriage return? -/
def isBlank (c : Char) : Bool := c == ' ' || c == '\t' || c == '\n' || c == '\r'

/-- The text from its first character that is not blank. -/
def skipBlanks (cs : List Char) : List Char := cs.dropWhile isBlank

theorem skipBlanks_length_le (cs : List Char) : (skipBlanks cs).length ≤ cs.length :=
  (List.dropWhile_suffix isBlank).length_le

/-- What follows white space and a character is shorter than the text. -/
theorem length_lt_of_skipBlanks {cs rest : List Char} {c : Char} (h : skipBlanks cs = c :: rest) :
    rest.length < cs.length := by
  have hl := skipBlanks_length_le cs
  rw [h, List.length_cons] at hl
  exact hl

/-- Skips white space first. -/
def Reader.afterBlanks {α : Type} (p : Reader α) : Reader α := fun cs =>
  match p (skipBlanks cs) with
  | .ok r => .ok (r.widen (skipBlanks_length_le cs))
  | .error e => .error e

/-! ## Words -/

/-- Goes past the letters of a word, one by one. -/
def word : List Char → (cs : List Char) → Except Error { r : List Char // r.length ≤ cs.length }
  | [], cs => .ok ⟨cs, Nat.le_refl _⟩
  | _ :: _, [] => .error .endInValue
  | w :: ws, c :: cs =>
    if c = w then
      match word ws cs with
      | .ok ⟨r, h⟩ => .ok ⟨r, Nat.le_succ_of_le h⟩
      | .error e => .error e
    else .error .expectedIdentifier

/-- Reads the letters of a word after its first one as a value. -/
def keyword {α : Type} (first : Char) (letters : List Char) (value : α) (cs : List Char) :
    Except Error (Read α (first :: cs)) :=
  match word letters cs with
  | .ok ⟨r, h⟩ => .ok ⟨value, r, Nat.lt_succ_of_le h⟩
  | .error e => .error e

/-! ## Whole texts -/

/-- Reads a text that holds one value and white space around it. -/
def Reader.parse {α : Type} (p : Reader α) (text : String) : Except Error α :=
  match p text.toList with
  | .error e => .error e
  | .ok r => if (skipBlanks r.rest).isEmpty then .ok r.value else .error .trailingCharacters

end CiMessage.Json
