import CiMessage.Pattern.Reader.Groups
import CiMessage.Pattern.Reader.Sets

/-!
# Reading patterns

`Pattern.ofText?` reads a pattern: characters, sets, places, groups, alternatives and repetitions. Counted repetitions
and whatever else needs braces are refused, and so is what depends on the classes, the words or the case of characters
beyond ASCII.
-/

namespace CiMessage.Pattern

/-- A part of a pattern, and how deep it is nested. A setting of flags stands for no pattern. -/
structure Item where
  pattern : Option Pattern
  depth : Nat

/-- How deep a pattern may be nested. -/
def depthLimit : Nat := 250

/-- The greatest depth of some items. -/
def deepest (items : List Item) : Nat := items.foldl (fun n i => max n i.depth) 0

/-- The item of some items one after the other. -/
def Item.ofSeq : List Item → Item
  | [] => ⟨some empty, 0⟩
  | [i] => i
  | items => ⟨some (seqList (items.filterMap (·.pattern))), deepest items + 1⟩

/-- The item of some alternatives. -/
def Item.ofAlternatives : List Item → Item
  | [i] => i
  | items => ⟨some (eitherList (items.map fun i => i.pattern.getD .empty)), deepest items + 1⟩

/-- A group that is being read. -/
structure OpenGroup where
  /-- The flags around the group. -/
  flagsAround : Flags
  /-- The alternatives before the present one, the last one first. -/
  alternatives : List Item
  /-- The items of the present alternative, the last one first. -/
  items : List Item

namespace OpenGroup

/-- A group that begins. -/
def begin (flagsAround : Flags) : OpenGroup := ⟨flagsAround, [], []⟩

/-- Begins another alternative. -/
def alternate (g : OpenGroup) : OpenGroup :=
  { g with alternatives := .ofSeq g.items.reverse :: g.alternatives, items := [] }

/-- Adds an item. -/
def add (g : OpenGroup) (i : Item) : OpenGroup := { g with items := i :: g.items }

/-- What is read. -/
def item (g : OpenGroup) : Item := .ofAlternatives g.alternate.alternatives.reverse

end OpenGroup

/-- A pattern of which a part is read. -/
structure Draft where
  flags : Flags
  group : OpenGroup
  /-- The groups around it, the innermost one first. -/
  outer : List OpenGroup
  /-- The names of groups. -/
  names : List (List Char)

namespace Draft

/-- Nothing is read. -/
def begin : Draft := ⟨.initial, .begin .initial, [], []⟩

/-- Adds an item. -/
def add (d : Draft) (i : Item) : Draft := { d with group := d.group.add i }

/-- Opens a group, or sets flags. Two groups cannot have the same name. -/
def enter (d : Draft) (o : Opening) : Option Draft :=
  let inner (flags : Flags) (names : List (List Char)) : Draft := ⟨flags, .begin d.flags, d.group :: d.outer, names⟩
  match o with
  | .group none => some (inner d.flags d.names)
  | .group (some name) => if d.names.contains name then none else some (inner d.flags (name :: d.names))
  | .flaggedGroup changes => some (inner (d.flags.change true changes) d.names)
  | .setting changes => some { d.add ⟨none, 0⟩ with flags := d.flags.change true changes }

/-- Closes a group. -/
def leave (d : Draft) : Option Draft :=
  match d.outer with
  | [] => none
  | g :: outer =>
    let i := d.group.item
    some ⟨d.group.flagsAround, g.add ⟨some (i.pattern.getD empty), i.depth + 1⟩, outer, d.names⟩

/-- Repeats the last item, of which there has to be one. -/
def repeatLast (d : Draft) (f : Pattern → Bool → Pattern) (greedy : Bool) : Option Draft :=
  match d.group.items with
  | ⟨some p, depth⟩ :: items =>
    let i : Item := ⟨some (f p (greedy != d.flags .swapGreed)), depth + 1⟩
    some { d with group := { d.group with items := i :: items } }
  | _ => none

/-- The pattern, if all groups are closed. -/
def finish (d : Draft) : Option Pattern :=
  let i := d.group.item
  if d.outer.isEmpty && i.depth ≤ depthLimit then some (i.pattern.getD empty) else none

end Draft

/-! ## Items -/

/-- The set of a character. -/
def Flags.literal? (fs : Flags) (c : Char) (isByte : Bool) : Option CharSet :=
  if isByte && !fs .unicode && 0x80 ≤ c.toNat then none else fs.fold? (.single c)

/-- The set of a dot: all characters but those that end lines. -/
def Flags.dot? (fs : Flags) : Option CharSet :=
  if !fs .unicode then none
  else if fs .dotIsAll then some (.complement .nothing)
  else if fs .carriageReturns then some (.complement (.ofList ['\n', '\r']))
  else some (.complement (.single '\n'))

/-- The place of a caret. -/
def Flags.lineStart (fs : Flags) : Look :=
  if !fs .manyLines then .textStart else if fs .carriageReturns then .anyLineStart else .lineStart

/-- The place of a dollar sign. -/
def Flags.lineEnd (fs : Flags) : Look :=
  if !fs .manyLines then .textEnd else if fs .carriageReturns then .anyLineEnd else .lineEnd

/-- The pattern of an escape. -/
def Escape.pattern? (fs : Flags) : Escape → Option Pattern
  | char c isByte => (fs.literal? c isByte).map .chars
  | chars s => some (.chars s)
  | look l => some (.look l)

/-- The pattern of a single character. An opening brace has no meaning that can be read. -/
def Flags.single? (fs : Flags) : Char → Option Pattern
  | '.' => fs.dot?.map chars
  | '^' => some (look fs.lineStart)
  | '$' => some (look fs.lineEnd)
  | '\x7b' => none
  | c => (fs.literal? c false).map chars

/-- Reads what is neither a group nor a repetition. -/
def atom (fs : Flags) (c : Char) (rest : List Char) : Option (Read Item (c :: rest)) :=
  if c = '[' then (set fs rest).map fun r => ⟨⟨some (chars r.value), 1⟩, r.rest, r.shorter⟩
  else if c = '\\' then
    (escape fs rest).bind fun r =>
      (r.value.pattern? fs).map fun p => ⟨⟨some p, 0⟩, r.rest, Nat.lt_succ_of_lt r.shorter⟩
  else (fs.single? c).map fun p => .one ⟨some p, 0⟩ c rest

/-- Reads a repetition of the last item, and the question mark that makes it not greedy. -/
def repetition (d : Draft) (f : Pattern → Bool → Pattern) (c : Char) (rest : List Char) :
    Option (Read Draft (c :: rest)) :=
  match rest with
  | '?' :: rest' => (d.repeatLast f false).map fun d => ⟨d, rest', by simp only [List.length_cons]; omega⟩
  | rest => (d.repeatLast f true).map fun d => .one d c rest

/-- Reads on by one item, one end of a group, or the like. -/
def step (d : Draft) (c : Char) (rest : List Char) : Option (Read Draft (c :: rest)) :=
  match c with
  | '(' =>
    (opening (d.flags.meaningful rest)).bind fun r =>
      (d.enter r.value).map fun d' => ⟨d', r.rest, Nat.lt_of_lt_of_le r.shorter
        (Nat.succ_le_succ (d.flags.meaningful_length_le rest))⟩
  | ')' => d.leave.map fun d => .one d ')' rest
  | '|' => some (.one { d with group := d.group.alternate } '|' rest)
  | '?' => repetition d .optional '?' rest
  | '*' => repetition d (fun p greedy => .repeated p greedy false) '*' rest
  | '+' => repetition d .onceOrMore '+' rest
  | c => (atom d.flags c rest).map fun r => r.map d.add

/-- Reads to the end. -/
def readAll (d : Draft) (cs : List Char) : Option Draft :=
  match h : d.flags.meaningful cs with
  | [] => some d
  | c :: rest =>
    have := Flags.length_lt_of_meaningful h
    match step d c rest with
    | none => none
    | some r =>
      have := r.shorter
      readAll r.value r.rest
  termination_by cs.length
  decreasing_by
    rw [List.length_cons] at *
    omega

/-- The pattern of a text. -/
def ofText? (text : String) : Option Pattern := (readAll .begin text.toList).bind Draft.finish

end CiMessage.Pattern
