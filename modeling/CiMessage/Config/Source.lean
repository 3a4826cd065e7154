import CiMessage.Config.Json
import CiMessage.Config.Override
import CiMessage.Disk.Operations
import CiMessage.Environment.Raw

/-!
# Where configurations come from

A configuration comes from a file on disk, if there is one, and from the variables of the process, which override it.
-/

namespace CiMessage.Config

/-- The failure of reading a text from bytes that are none. -/
def undecodable : IoError := ⟨.invalidData, "stream did not contain valid UTF-8"⟩

/-- The configuration of the bytes of a file. -/
def ofBytes (content : ByteArray) : Except ConfigError Config :=
  match String.fromUTF8? content with
  | some text => ofJson text
  | none => .error (.io undecodable)

/-- The configuration of a file. -/
def load (disk : Disk) (path : Path) : Except ConfigError Config :=
  match disk.read path with
  | .ok content => ofBytes content
  | .error f => .error (.io f.toIoError)

/-- The default configuration with the overrides of the process. -/
def ofEnvironment (env : Environment.Raw) : Except ConfigError Config := default.override env.get?

/-- The two layers of a configuration. -/
inductive Layer where
  | file (path : Path)
  | overrides
  deriving DecidableEq

/-- What was being done with a layer. -/
def Layer.context : Layer → String
  | file path => "loading contributor config from " ++ path.text
  | overrides => "applying CIENV_* overrides"

/-- The configuration under the overrides: that of a file, or the default one. -/
def base (disk : Disk) (path : Option Path) : Except (Layer × ConfigError) Config :=
  match path with
  | none => .ok default
  | some p => (load disk p).mapError fun e => (.file p, e)

/-- The configuration of a file, or the default one, with the overrides of the process; of a failure also the layer. -/
def resolve (disk : Disk) (path : Option Path) (env : Environment.Raw) : Except (Layer × ConfigError) Config :=
  match base disk path with
  | .error e => .error e
  | .ok c => (c.override env.get?).mapError fun e => (.overrides, e)

end CiMessage.Config
