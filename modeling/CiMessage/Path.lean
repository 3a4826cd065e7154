import CiMessage.Text.Utf8

/-!
# Paths

A path is a byte string, as the system takes it; it need not be a text. `Path.text` shows it as one. Two paths are the
same place by name when they have the same components: repeated and final slashes do not count, nor does a `.` that is
not at the start.
-/

namespace CiMessage

/-- A path of the host. -/
structure Path where
  bytes : List UInt8
  deriving DecidableEq

namespace Path

/-- The byte between components. -/
def slash : UInt8 := 0x2F

/-- The byte of `.`. -/
def dot : UInt8 := 0x2E

/-- The path that a text spells. -/
def ofText (s : String) : Path := ⟨Utf8.encode s⟩

/-- The path as a text, each undecodable part shown as U+FFFD. -/
def text (p : Path) : String := Utf8.decodeLossy p.bytes

/-- The text that spells the path, if there is one. -/
def text? (p : Path) : Option String := Utf8.decode? p.bytes

/-- Is this the path without bytes? -/
def isEmpty (p : Path) : Bool := p.bytes.isEmpty

/-- The path of an entry of a directory: a slash goes between them, unless the directory ends in one. -/
def join (p : Path) (name : List UInt8) : Path :=
  if p.isEmpty || p.bytes.getLast? == some slash then ⟨p.bytes ++ name⟩ else ⟨p.bytes ++ slash :: name⟩

/-! ## Components -/

/-- A component of a path. -/
inductive Component where
  | root
  | current
  | parent
  | normal (name : List UInt8)
  deriving DecidableEq

/-- The parts between slashes. -/
def split : List UInt8 → List (List UInt8)
  | [] => [[]]
  | b :: rest =>
    if b = slash then [] :: split rest
    else
      match split rest with
      | [] => [[b]]
      | part :: parts => (b :: part) :: parts

/-- The component that a part not at the start stands for. -/
def component? (part : List UInt8) : Option Component :=
  if part = [] ∨ part = [dot] then none else if part = [dot, dot] then some .parent else some (.normal part)

/-- The components of a path from first to last. -/
def components (p : Path) : List Component :=
  match split p.bytes with
  | [] => []
  | first :: rest =>
    let start : List Component :=
      if p.bytes.head? = some slash then [.root]
      else if first = [dot] then [.current]
      else (component? first).toList
    start ++ rest.filterMap component?

/-- The bytes of a component; the root has none besides the slash after it. -/
def Component.bytes : Component → List UInt8
  | root => []
  | current => [dot]
  | parent => [dot, dot]
  | normal name => name

/-- The path of components with single slashes between them. -/
def ofComponents (cs : List Component) : Path :=
  match cs with
  | [.root] => ⟨[slash]⟩
  | cs => ⟨[slash].intercalate (cs.map Component.bytes)⟩

/-- Are two paths the same by their components? -/
def same (p q : Path) : Bool := p.components == q.components

end Path

end CiMessage
