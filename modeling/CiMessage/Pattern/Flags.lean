import CiMessage.Pattern.Basic
import CiMessage.Text.Blank

/-!
# Flags in patterns

Flags change how what follows them is read. They are set and cleared for the rest of a group, or for a group of their
own, by their letters: those after a minus sign are cleared.
-/

namespace CiMessage.Pattern

/-- What can be changed. -/
inductive Flag where
  | ignoreCase
  | manyLines
  | dotIsAll
  /-- Repetitions are greedy with a question mark and not without it. -/
  | swapGreed
  /-- All characters are meant, and not the ASCII ones only. Classes and case are only known for those. -/
  | unicode
  /-- Lines may end with carriage returns. -/
  | carriageReturns
  /-- White space and comments have no meaning. -/
  | spaced
  deriving DecidableEq

/-- The flag of a letter. -/
def Flag.ofLetter? : Char → Option Flag
  | 'i' => some ignoreCase
  | 'm' => some manyLines
  | 's' => some dotIsAll
  | 'U' => some swapGreed
  | 'u' => some unicode
  | 'R' => some carriageReturns
  | 'x' => some spaced
  | _ => none

/-- The flags that are set. -/
abbrev Flags := Flag → Bool

namespace Flags

/-- The flags at the beginning of a pattern. -/
def initial : Flags := fun f => f == .unicode

/-- Sets or clears a flag. -/
def put (fs : Flags) (f : Flag) (on : Bool) : Flags := fun g => if g = f then on else fs g

/-- Sets the flags of a list and clears those after a minus sign, for which `none` stands. -/
def change (fs : Flags) (on : Bool) : List (Option Flag) → Flags
  | [] => fs
  | none :: rest => change fs false rest
  | some f :: rest => change (fs.put f on) on rest

end Flags

/-! ## White space and comments -/

/-- The text after white space and comments, which begin with a number sign and go on to the end of the line. -/
def passSpace (inComment : Bool) : List Char → List Char
  | [] => []
  | c :: rest =>
    if inComment then passSpace (c != '\n') rest
    else if c = '#' then passSpace true rest
    else if Text.isBlank c then passSpace false rest
    else c :: rest

theorem passSpace_length_le (inComment : Bool) (cs : List Char) : (passSpace inComment cs).length ≤ cs.length := by
  induction cs generalizing inComment with
  | nil => exact Nat.le_refl _
  | cons c rest ih =>
    rw [passSpace]
    split
    · exact Nat.le_succ_of_le (ih _)
    · split
      · exact Nat.le_succ_of_le (ih _)
      · split
        · exact Nat.le_succ_of_le (ih _)
        · exact Nat.le_refl _

/-- The text from what has a meaning. -/
def Flags.meaningful (fs : Flags) (cs : List Char) : List Char := if fs .spaced then passSpace false cs else cs

theorem Flags.meaningful_length_le (fs : Flags) (cs : List Char) : (fs.meaningful cs).length ≤ cs.length := by
  rw [Flags.meaningful]
  split
  · exact passSpace_length_le false cs
  · exact Nat.le_refl _

/-- What follows a character of the meaningful text is shorter than the text. -/
theorem Flags.length_lt_of_meaningful {fs : Flags} {cs rest : List Char} {c : Char}
    (h : fs.meaningful cs = c :: rest) : rest.length < cs.length := by
  have hl := fs.meaningful_length_le cs
  rw [h, List.length_cons] at hl
  exact hl

/-- The same with a character before each of them. -/
theorem Flags.cons_length_le_of_meaningful {fs : Flags} {cs rest : List Char} {c x y : Char}
    (h : fs.meaningful cs = c :: rest) : (x :: rest).length ≤ (y :: cs).length :=
  Nat.succ_le_succ (Nat.le_of_lt (Flags.length_lt_of_meaningful h))

end CiMessage.Pattern
