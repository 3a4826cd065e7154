import CiMessage.Store

/-!
# Files in memory

Files by the texts of their paths. The store can be told to fail at writing and to hide its files.
-/

namespace CiMessage

/-- A store in memory. -/
structure MemoryStore where
  files : SortedMap String String
  /-- How each write fails, if writes are to fail. -/
  failure : Option IoError.Kind
  hidden : Bool
  /-- The number of writes that succeeded. -/
  writes : Nat
  deriving DecidableEq

namespace MemoryStore

/-- A store without files. -/
def empty : MemoryStore := ⟨∅, none, false, 0⟩

instance : Inhabited MemoryStore := ⟨empty⟩

/-- From now on writes fail. -/
def failWrites (s : MemoryStore) (kind : IoError.Kind) : MemoryStore := { s with failure := some kind }

/-- From now on files are not seen. -/
def hideFiles (s : MemoryStore) : MemoryStore := { s with hidden := true }

/-- The content of the file at a path. -/
def contents (s : MemoryStore) (path : String) : Option String := s.files.get? path

/-- The number of files. -/
def fileCount (s : MemoryStore) : Nat := s.files.size

/-- Writes a file. A name that cannot be added to the directory comes before a failure that is asked for. -/
def write (s : MemoryStore) (dir : Path) (file content : String) : Except FileError (String × MemoryStore) :=
  match Workspace.child dir file with
  | .error e => .error e
  | .ok target =>
    match s.failure with
    | some kind => .error (.ofIo target.text (.ofKind kind))
    | none => .ok (target.text, { s with files := s.files.insert target.text content, writes := s.writes + 1 })

/-- The size of the file at a path, unless files are hidden. -/
def size? (s : MemoryStore) (path : String) : Option Nat :=
  if s.hidden then none else (s.contents path).map String.utf8ByteSize

instance : FileStore MemoryStore where
  writeText s dir file content :=
    match s.write dir file content with
    | .ok (path, s') => ⟨.ok path, s', []⟩
    | .error e => ⟨.error e, s, []⟩
  fileSize s path := .ok (s.size? path)

end MemoryStore

end CiMessage
