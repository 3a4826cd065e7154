import CiMessage.FileError

/-!
# Why a message does not go to a file
-/

namespace CiMessage

/-- What keeps a message from its file. -/
inductive RedirectError where
  /-- The run has no workspace of its own. -/
  | noWorkspace (run : String)
  /-- The run has no root directory. -/
  | noRootDir (run : String)
  /-- The pointer variable is reserved or set. -/
  | pointerUnavailable (name : String)
  /-- The file could not be written. -/
  | write (error : FileError)
  deriving DecidableEq

/-- The wording of a cause. -/
def RedirectError.message : RedirectError → String
  | noWorkspace run => s!"run {run} has no workspace"
  | noRootDir run => s!"run {run} has no root directory"
  | pointerUnavailable name => s!"pointer variable {name} is reserved or already set"
  | write error => "failed to write message file: " ++ error.message

end CiMessage
