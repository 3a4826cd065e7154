import CiMessage.IoError
import CiMessage.Text.Quoted

/-!
# Failures with files of a workspace
-/

namespace CiMessage

/-- Why a file of a workspace could not be written or looked at. Paths are shown as texts. -/
inductive FileError where
  /-- A directory has no such entry: its path is empty, or the name is not a plain one. -/
  | invalidChild (parent name : String)
  /-- The call was interrupted. -/
  | interrupted (path : String)
  /-- The call failed in another way. -/
  | io (path : String) (error : IoError)
  deriving DecidableEq

namespace FileError

/-- Sorts a failure of the system with a path. -/
def ofIo (path : String) (error : IoError) : FileError :=
  if error.kind = .interrupted then interrupted path else io path error

/-- The wording of a failure. -/
def message : FileError → String
  | invalidChild parent name => "cannot create child " ++ Text.quote name ++ " under " ++ Text.quote parent
  | interrupted path => "interrupted while writing " ++ path
  | io path error => "io error at " ++ path ++ ": " ++ error.text

end FileError

end CiMessage
