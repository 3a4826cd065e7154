import CiMessage.Config
import CiMessage.Store

/-!
# Sending a message to a file

The message is written to a file of the workspace of the run, and a pointer variable is to hold its path. The
workspace is the directory of a direct handle, or a subdirectory of the root of a rooted one. Where that subdirectory
cannot be named, it is the root itself.
-/

namespace CiMessage

/-- A variable that holds the path of a file. -/
structure Pointer where
  name : String
  path : String
  deriving DecidableEq

namespace Run

/-- The workspace of a run, and what is told about finding it. -/
def workspace (run : Run) (subdir : String) : Except RedirectError Path × List Event :=
  match run.handle with
  | .direct (some dir) => (.ok dir, [])
  | .direct none => (.error (.noWorkspace run.id), [])
  | .rooted (some root) =>
    match Workspace.child root subdir with
    | .ok dir => (.ok dir, [])
    | .error e => (.ok root, [.rootTaken root.text e])
  | .rooted none => (.error (.noRootDir run.id), [])

variable {σ : Type} [FileStore σ]

/-- What is told about a file after it was written. -/
def verification (store : σ) (path : String) (expected : Nat) : Event :=
  match FileStore.fileSize store path with
  | .ok actual => .ofSize path expected actual
  | .error e => .verifyFailed path e.message

/-- Writes a value to a file of a workspace. -/
def writeValue (config : Config) (store : σ) (dir : Path) (pointer file value : String) :
    Outcome σ (Except RedirectError Pointer) :=
  let written := FileStore.writeText store dir file value
  match written.value with
  | .error e => ⟨.error (.write e), written.store, written.events ++ [.ofFailure (.write e) value]⟩
  | .ok path =>
    let looked := if config.verifyAfterWrite then [verification written.store path value.utf8ByteSize] else []
    ⟨.ok ⟨pointer, path⟩, written.store, written.events ++ .ofWritten path value :: looked⟩

/-- Sends a value to a file of the workspace of the run. -/
def redirect (run : Run) (config : Config) (store : σ) (pointer file value : String) :
    Outcome σ (Except RedirectError Pointer) :=
  match run.workspace config.workspaceSubdir with
  | (.error cause, found) => ⟨.error cause, store, found ++ [.ofFailure cause value]⟩
  | (.ok dir, found) =>
    let out := writeValue config store dir pointer file value
    { out with events := found ++ out.events }

/-- Sends a message to its file. -/
def redirectMessage (run : Run) (config : Config) (store : σ) (value : String) :
    Outcome σ (Except RedirectError Pointer) :=
  run.redirect config store pointerName messageFileName value

end Run

end CiMessage
