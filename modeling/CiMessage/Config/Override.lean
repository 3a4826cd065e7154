import CiMessage.Config
import CiMessage.Text.Blank

/-!
# Overrides

Three variables override a configuration, each one a field. A boolean is one of eight words, in letters of any size
and with white space around it; the name of the workspace may have white space around it too. The variables are looked
up in their order, and the first value that cannot be used ends the search.
-/

namespace CiMessage

/-- What an override sets. -/
inductive Config.Override where
  | redirect
  | verify
  | subdir
  deriving DecidableEq

namespace Config.Override

/-- The variable of an override. -/
def key : Override → String
  | redirect => "CIENV_REDIRECT_MESSAGE"
  | verify => "CIENV_VERIFY_WRITE"
  | subdir => "CIENV_WORKSPACE_SUBDIR"

/-- The overrides in the order in which they are looked up. -/
def all : List Override := [redirect, verify, subdir]

/-- The words for a boolean. -/
def words : Bool → List String
  | true => ["1", "true", "yes", "on"]
  | false => ["0", "false", "no", "off"]

/-- The boolean that a value stands for. -/
def boolean? (raw : String) : Option Bool :=
  let word := Text.lowerAscii (Text.trim raw)
  if word ∈ words true then some true else if word ∈ words false then some false else none

/-- The name of a workspace that a value stands for. -/
def subdir? (raw : String) : Option String :=
  let name := Text.trim raw
  if Workspace.isPlainName name then some name else none

/-- Sets the field of an override. -/
def set? (o : Override) (raw : String) (c : Config) : Option Config :=
  match o with
  | redirect => (boolean? raw).map fun b => { c with redirectEnabled := b }
  | verify => (boolean? raw).map fun b => { c with verifyAfterWrite := b }
  | subdir => (subdir? raw).map fun name => { c with workspaceSubdir := name }

/-- Applies overrides in their order; also the variables that were looked up. -/
def applyAll (lookup : String → Option String) (c : Config) : List Override → Except ConfigError Config × List String
  | [] => (.ok c, [])
  | o :: rest =>
    match lookup o.key with
    | none =>
      let (result, keys) := applyAll lookup c rest
      (result, o.key :: keys)
    | some raw =>
      match o.set? raw c with
      | none => (.error (.invalidValue o.key raw), [o.key])
      | some c =>
        let (result, keys) := applyAll lookup c rest
        (result, o.key :: keys)

end Config.Override

namespace Config

/-- The configuration with overrides, if it is accepted then. -/
def override (c : Config) (lookup : String → Option String) : Except ConfigError Config :=
  match (Override.applyAll lookup c Override.all).1 with
  | .ok c => c.validate
  | .error e => .error e

/-- The variables that are looked up for overrides. -/
def lookedUp (c : Config) (lookup : String → Option String) : List String :=
  (Override.applyAll lookup c Override.all).2

end Config

end CiMessage
