import CiMessage.Event
import CiMessage.Workspace

/-!
# Where files of workspaces are kept

A store takes a file with its directory, its name and its content, and tells the size of a file. It is known to the
rest of the library by these two operations only.
-/

namespace CiMessage

/-- What a step results in: a value, the store after it, and the events on the way. -/
structure Outcome (σ α : Type) where
  value : α
  store : σ
  events : List Event

/-- A store of files. -/
class FileStore (σ : Type) where
  /-- Writes a file, over one that is there; its path is given as a text. -/
  writeText (store : σ) (dir : Path) (file content : String) : Outcome σ (Except FileError String)
  /-- The size of the file at a path in bytes, none if no file is there. -/
  fileSize (store : σ) (path : String) : Except FileError (Option Nat)

end CiMessage
