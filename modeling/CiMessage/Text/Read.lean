/-!
# What is read of a text

A reader of a part of a text gives its value and the rest of the text, which is shorter; so reading on ends.
-/

namespace CiMessage

/-- A value read, and the rest of the text. -/
structure Read (α : Type) (cs : List Char) where
  value : α
  rest : List Char
  shorter : rest.length < cs.length

namespace Read

variable {α β : Type} {cs ds : List Char}

/-- Replaces the value. -/
def map (f : α → β) (r : Read α cs) : Read β cs := ⟨f r.value, r.rest, r.shorter⟩

/-- A value that takes one character. -/
def one (a : α) (c : Char) (cs : List Char) : Read α (c :: cs) := ⟨a, cs, Nat.lt_succ_self _⟩

/-- What was read in a part of a text was read in the text. -/
def widen (h : ds.length ≤ cs.length) (r : Read α ds) : Read α cs :=
  ⟨r.value, r.rest, Nat.lt_of_lt_of_le r.shorter h⟩

/-- What was read after a character was read with it. -/
def past (c : Char) (r : Read α cs) : Read α (c :: cs) := r.widen (Nat.le_succ _)

end Read

end CiMessage
