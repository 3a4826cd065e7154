import CiMessage.Event
import CiMessage.Text.Blank

/-!
# Thresholds

A threshold says up to which level events are logged.
-/

namespace CiMessage.Log

/-- Up to which level events are logged; none if no event is. -/
abbrev Threshold := Option Level

namespace Threshold

/-- The place of a threshold; the more it lets through, the greater it is. -/
def rank (t : Threshold) : Nat := (t.map Level.rank).getD 0

/-- Are events of a level logged? -/
def admits (t : Threshold) (level : Level) : Bool := level.rank ≤ t.rank

/-- The threshold that lets more through. -/
def max (a b : Threshold) : Threshold := if a.rank < b.rank then b else a

/-- The threshold of a list that lets the most through. -/
def maximum (ts : List Threshold) : Threshold := ts.foldl max none

/-- The thresholds by their names. A threshold may also be written as its place in this list. -/
def names : List (String × Threshold) :=
  [("off", none), ("error", some .error), ("warn", some .warn), ("info", some .info), ("debug", some .debug),
    ("trace", some .trace)]

/-- The number that decimal digits stand for, perhaps after a plus sign. -/
def number? (cs : List Char) : Option Nat :=
  let digits := if cs.head? = some '+' then cs.tail else cs
  if digits.isEmpty || !digits.all Char.isDigit then none
  else some (digits.foldl (fun n c => 10 * n + (c.toNat - '0'.toNat)) 0)

/-- The threshold of a text, in letters of any size. -/
def ofText? (s : String) : Option Threshold :=
  match names.lookup (Text.lowerAscii s) with
  | some t => some t
  | none => (number? s.toList).bind fun n => names[n]?.map (·.2)

end Threshold

end CiMessage.Log
