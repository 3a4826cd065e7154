import CiMessage.Pattern.Basic

/-!
# Searching for a pattern

The first match of a pattern in a text is the best one of those that begin first. `Pattern.endsText` says whether it
reaches the end of the text. The text is read once: at each place there is a list of what may still have to be
matched, from the best way to the worst, and a way that has matched ends all that are worse.
-/

namespace CiMessage

namespace Pattern

/-- What is still to be matched, one after the other. -/
abbrev Goals := List Pattern

/-- The ways to begin with a pattern without taking a character, the best one first. -/
def openings (s : Surroundings) (later : Goals) : Pattern → List Goals
  | empty => [later]
  | chars _ => []
  | look l => if l.holds s then [later] else []
  | seq a b => [a :: b :: later]
  | either a b => [a :: later, b :: later]
  | optional p true => [p :: later, later]
  | optional p false => [later, p :: later]
  | onceOrMore p greedy => [p :: repeated p greedy true :: later]
  | repeated p true _ => [p :: repeated p true true :: later, later]
  | repeated p false _ => [later, p :: repeated p false true :: later]

/-- Follows ways until they need a character, the best one first, and each one once; `seen` holds those followed, the
last one first. A way without goals has matched, which ends the others. Each round follows one way, so as many rounds
are enough as there are ways and places. -/
def follow (s : Surroundings) : (rounds : Nat) → (ways seen : List Goals) → List Goals × Bool
  | 0, _, seen => (seen, false)
  | _ + 1, [], seen => (seen, false)
  | n + 1, way :: ways, seen =>
    if seen.contains way then follow s n ways seen
    else
      match way with
      | [] => (seen, true)
      | p :: later => follow s n (openings s later p ++ ways) (way :: seen)

/-- How many lists of goals come up at most while a pattern is matched. -/
def places : Pattern → Nat
  | empty | chars _ | look _ => 1
  | seq a b | either a b => 1 + a.places + b.places
  | optional p _ => 1 + p.places
  | onceOrMore p _ | repeated p _ _ => 2 + p.places

/-- How many rounds are enough for some ways to match a pattern. -/
def rounds (p : Pattern) (ways : List Goals) : Nat := ways.length + 2 * p.places + 3

/-- Goes past a character, if it is what a way needs. -/
def advance? (c : Char) : Goals → Option Goals
  | chars s :: later => if s.contains c then some later else none
  | _ => none

/-- Does the pattern match the empty text at a place? -/
def matchesEmpty (p : Pattern) (s : Surroundings) : Bool := (follow s (p.rounds [[p]]) [[p]] []).2

/-- Matches the rest of a text after a character. Where nothing has matched yet, a match may also begin; inside a
character of several bytes too, where only an empty one can. -/
def endsFrom (p : Pattern) (before : Option Char) (searching : Bool) (ways : List Goals) : List Char → Bool
  | [] => (follow ⟨before, none⟩ (p.rounds ways) ways []).2
  | c :: rest =>
    let (seen, found) := follow ⟨before, some c⟩ (p.rounds ways) ways []
    let inside : Surroundings := ⟨some c, some c⟩
    let searching := searching && !found && !(1 < c.utf8Size && p.matchesEmpty inside)
    let further := seen.reverse.filterMap (advance? c)
    endsFrom p (some c) searching (if searching then further ++ [[p]] else further) rest

/-- Is there a match of the pattern, and does the first one end where the text ends? -/
def endsText (p : Pattern) (text : String) : Bool := p.endsFrom none true [[p]] text.toList

end Pattern

end CiMessage
