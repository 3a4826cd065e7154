import CiMessage.Disk.Operations
import CiMessage.Store

/-!
# Files on disk

A file is written into its directory, which is made first if it is not there. Failures at the directory are told with
the path of the directory, failures at the file with its own.
-/

namespace CiMessage.Disk

/-- Writes a file of a directory. -/
def writeText (d : Disk) (dir : Path) (file content : String) : Outcome Disk (Except FileError String) :=
  match Workspace.child dir file with
  | .error e => ⟨.error e, d, []⟩
  | .ok target =>
    match d.makeDirectories dir with
    | (d', some f) => ⟨.error (.ofIo dir.text f.toIoError), d', []⟩
    | (d', none) =>
      match d'.write target content.toUTF8 with
      | .error f => ⟨.error (.ofIo target.text f.toIoError), d', []⟩
      | .ok d'' => ⟨.ok target.text, d'', [.fileWritten target.text content.utf8ByteSize]⟩

/-- The size of the file at a path that is given as a text; none if nothing or something else is there. -/
def fileSize (d : Disk) (path : String) : Except FileError (Option Nat) :=
  match d.size? (Path.ofText path) with
  | .ok size => .ok size
  | .error .noEntry => .ok none
  | .error f => .error (.ofIo path f.toIoError)

instance : FileStore Disk where
  writeText := writeText
  fileSize := fileSize

end CiMessage.Disk
