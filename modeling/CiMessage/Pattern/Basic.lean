import CiMessage.Pattern.CharSet

/-!
# Patterns of texts

A pattern says how a text may look. Its alternatives have an order: of two ways to match, the one that takes the
earlier alternative is the better one. A repetition prefers to go on if it is greedy, and to stop if it is not.
-/

namespace CiMessage

/-- The characters on both sides of a place in a text; none at its ends. -/
structure Surroundings where
  before : Option Char
  after : Option Char

/-- A condition on a place in a text. -/
inductive Look where
  | textStart
  | textEnd
  | lineStart
  | lineEnd
  /-- The start of a line that may also begin after a carriage return. -/
  | anyLineStart
  /-- The end of a line that may also end before a carriage return. -/
  | anyLineEnd
  | wordEdge
  | noWordEdge
  | wordStart
  | wordEnd
  deriving DecidableEq

/-- Is this an ASCII letter, a digit or an underscore? -/
def isAsciiWord (c : Char) : Bool := c.isAlphanum || c == '_'

/-- Does the condition hold at a place? A carriage return and the newline after it are one end of a line. -/
def Look.holds (l : Look) (s : Surroundings) : Bool :=
  let inWordBefore := s.before.any isAsciiWord
  let inWordAfter := s.after.any isAsciiWord
  match l with
  | textStart => s.before.isNone
  | textEnd => s.after.isNone
  | lineStart => s.before.all (· == '\n')
  | lineEnd => s.after.all (· == '\n')
  | anyLineStart => s.before.all (· == '\n') || (s.before == some '\r' && s.after != some '\n')
  | anyLineEnd => s.after.all (· == '\r') || (s.after == some '\n' && s.before != some '\r')
  | wordEdge => inWordBefore != inWordAfter
  | noWordEdge => inWordBefore == inWordAfter
  | wordStart => !inWordBefore && inWordAfter
  | wordEnd => inWordBefore && !inWordAfter

/-- A pattern. -/
inductive Pattern where
  | empty
  /-- One character of a set. -/
  | chars (s : CharSet)
  | look (l : Look)
  | seq (a b : Pattern)
  | either (a b : Pattern)
  | optional (p : Pattern) (greedy : Bool)
  /-- Once or more often. -/
  | onceOrMore (p : Pattern) (greedy : Bool)
  /-- Any number of times; `entered` if there was a time before. -/
  | repeated (p : Pattern) (greedy entered : Bool)
  deriving DecidableEq

namespace Pattern

/-- Some patterns one after the other. -/
def seqList : List Pattern → Pattern
  | [] => empty
  | [p] => p
  | p :: rest => seq p (seqList rest)

/-- Some alternatives, the best one first. -/
def eitherList : List Pattern → Pattern
  | [] => empty
  | [p] => p
  | p :: rest => either p (eitherList rest)

end Pattern

end CiMessage
