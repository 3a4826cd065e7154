import CiMessage.FileError
import CiMessage.Path

/-!
# Workspaces of runs

A run has a directory to work in. A build has a workspace of its own; a pipeline only knows its root directory, under
which the workspace is a subdirectory. Either may be missing.
-/

namespace CiMessage

namespace Workspace

/-- Is this name a single component that can be added to a directory? Slashes, backslashes and NULs are out, as are the
empty name, `.` and `..`. -/
def isPlainName (name : String) : Bool :=
  name != "" && name != "." && name != ".." && !name.toList.any fun c => c == '/' || c == '\\' || c == '\x00'

/-- The path of an entry of a directory. -/
def child (dir : Path) (name : String) : Except FileError Path :=
  if dir.isEmpty || !isPlainName name then .error (.invalidChild dir.text name)
  else .ok (dir.join (Utf8.encode name))

end Workspace

/-- How the working directory of a run is known. -/
inductive Workspace.Handle where
  /-- A workspace of its own; none if no place has been given to the run. -/
  | direct (dir : Option Path)
  /-- The root directory of the run. -/
  | rooted (dir : Option Path)
  deriving DecidableEq

/-- A run, as far as contributing to it goes. -/
structure Run where
  id : String
  handle : Workspace.Handle
  deriving DecidableEq

/-- The directory of a handle. -/
def Workspace.Handle.dir : Workspace.Handle → Option Path
  | direct dir => dir
  | rooted dir => dir

end CiMessage
