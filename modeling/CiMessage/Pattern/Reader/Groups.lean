import CiMessage.Pattern.Flags
import CiMessage.Text.Alphanumeric
import CiMessage.Text.Read

/-!
# What opens groups in patterns

After an opening parenthesis a question mark begins a name, flags for the group, or flags for the rest of the group
around it.
-/

namespace CiMessage.Pattern

/-- What opens with a parenthesis. -/
inductive Opening where
  | group (name : Option (List Char))
  | flaggedGroup (changes : List (Option Flag))
  /-- Flags that are set, without a group. -/
  | setting (changes : List (Option Flag))

/-- Can a name hold this character? A name does not begin with a digit. -/
def isNameChar (isFirst : Bool) (c : Char) : Bool :=
  c == '_' || if isFirst then Text.isAlphanumeric c && !c.isDigit
    else Text.isAlphanumeric c || c == '.' || c == '[' || c == ']'

/-- Is this the name of a group? -/
def isName : List Char → Bool
  | [] => false
  | c :: cs => isNameChar true c && cs.all (isNameChar false)

/-- Reads a name and the angle bracket after it. -/
def groupName (cs : List Char) : Option (Read Opening cs) :=
  match h : cs.dropWhile (· != '>') with
  | [] => none
  | _ :: rest =>
    let name := cs.takeWhile (· != '>')
    if isName name then
      some ⟨.group (some name), rest, by
        have := (List.dropWhile_suffix (· != '>') (l := cs)).length_le
        rw [h, List.length_cons] at this
        exact this⟩
    else none

/-- Reads flags; `changes` are those read, the last one first. No flag and no minus sign stands twice, and a minus sign
not last. -/
def flags (changes : List (Option Flag)) : (cs : List Char) → Option (Read Opening cs)
  | [] => none
  | c :: rest =>
    if c = ':' ∨ c = ')' then
      if changes.head? = some none ∨ (c = ')' ∧ changes = []) then none
      else
        let opening := if c = ':' then Opening.flaggedGroup changes.reverse else .setting changes.reverse
        some (.one opening c rest)
    else
      let change? := if c = '-' then some none else (Flag.ofLetter? c).map some
      match change? with
      | none => none
      | some change =>
        if changes.contains change then none else (flags (change :: changes) rest).map (·.past c)

/-- Reads what follows an opening parenthesis. A look at what follows or comes before is refused. -/
def opening (cs : List Char) : Option (Read Opening ('(' :: cs)) :=
  match cs with
  | '?' :: '=' :: _ | '?' :: '!' :: _ | '?' :: '<' :: '=' :: _ | '?' :: '<' :: '!' :: _ => none
  | '?' :: 'P' :: '<' :: rest => (groupName rest).map fun r => (((r.past '<').past 'P').past '?').past '('
  | '?' :: '<' :: rest => (groupName rest).map fun r => ((r.past '<').past '?').past '('
  | '?' :: rest => (flags [] rest).map fun r => (r.past '?').past '('
  | cs => some (.one (.group none) '(' cs)

end CiMessage.Pattern
