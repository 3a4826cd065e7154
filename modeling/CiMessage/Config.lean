import CiMessage.IoError
import CiMessage.Json.Error
import CiMessage.Workspace

/-!
# Configuration

Whether a message goes to a file, whether the file is looked at afterwards, and where the workspace of a run is under
its root directory. A configuration is accepted when that place is a plain name.
-/

namespace CiMessage

/-- How messages are contributed. -/
structure Config where
  redirectEnabled : Bool
  verifyAfterWrite : Bool
  workspaceSubdir : String
  deriving DecidableEq

/-- Why there is no configuration. -/
inductive ConfigError where
  | invalidValue (key value : String)
  | json (error : Json.Error)
  | io (error : IoError)
  deriving DecidableEq

/-- The wording of a refusal. -/
def ConfigError.message : ConfigError → String
  | invalidValue key value => "invalid value " ++ Text.quote value ++ " for " ++ key
  | json error => "config parse error: " ++ error.message
  | io error => "io error: " ++ error.text

namespace Config

/-- Messages go to files that are looked at afterwards, and workspaces are called `workspace`. -/
def default : Config := ⟨true, true, "workspace"⟩

instance : Inhabited Config := ⟨default⟩

/-- The names of the fields in JSON texts. -/
def redirectKey : String := "redirect_enabled"

@[inherit_doc redirectKey]
def verifyKey : String := "verify_after_write"

@[inherit_doc redirectKey]
def subdirKey : String := "workspace_subdir"

/-- Refuses a configuration in which the workspace has no plain name. -/
def validate (c : Config) : Except ConfigError Config :=
  if Workspace.isPlainName c.workspaceSubdir then .ok c else .error (.invalidValue subdirKey c.workspaceSubdir)

end Config

end CiMessage
