/-!
# Sets of characters

The sets that patterns speak of, as they are written: ranges, and what is made of other sets.
-/

namespace CiMessage

/-- A set of characters. -/
inductive CharSet where
  | nothing
  | range (first last : Char)
  | union (a b : CharSet)
  | intersection (a b : CharSet)
  | difference (a b : CharSet)
  | complement (a : CharSet)
  /-- The characters that differ from one of the set at most in the case of an ASCII letter. -/
  | anyCase (a : CharSet)
  deriving DecidableEq

namespace CharSet

/-- Is a character in the set? -/
def contains : CharSet → Char → Bool
  | nothing, _ => false
  | range first last, c => first ≤ c && c ≤ last
  | union a b, c => a.contains c || b.contains c
  | intersection a b, c => a.contains c && b.contains c
  | difference a b, c => a.contains c && !b.contains c
  | complement a, c => !a.contains c
  | anyCase a, c => a.contains c.toLower || a.contains c.toUpper

/-- Is the set written without any character? -/
def isBare : CharSet → Bool
  | nothing => true
  | range .. => false
  | union a b | intersection a b | difference a b => a.isBare && b.isBare
  | complement _ => false
  | anyCase a => a.isBare

/-- The set of one character. -/
def single (c : Char) : CharSet := range c c

/-- The characters in one of two sets and not in both. -/
def symmetricDifference (a b : CharSet) : CharSet := union (difference a b) (difference b a)

/-- The set of some characters. -/
def ofList (cs : List Char) : CharSet := cs.foldl (fun s c => s.union (single c)) nothing

end CharSet

end CiMessage
