import CiMessage.Decision
import CiMessage.RedirectError
import CiMessage.Sha256

/-!
# Events

What happens on the way is told as events. An event has a level and a target, perhaps a message, and fields. Of a
message to the job it tells the length and the digest and never the text.
-/

namespace CiMessage

/-- How much an event matters. -/
inductive Level where
  | error
  | warn
  | info
  | debug
  | trace
  deriving DecidableEq

namespace Level

/-- The name of a level. -/
def name : Level → String
  | error => "ERROR"
  | warn => "WARN"
  | info => "INFO"
  | debug => "DEBUG"
  | trace => "TRACE"

/-- The place of a level; the less a level matters, the greater it is. -/
def rank : Level → Nat
  | error => 1
  | warn => 2
  | info => 3
  | debug => 4
  | trace => 5

end Level

/-- What happened. -/
inductive Event where
  | skipped (name : String) (reason : SkipReason)
  | injected (name : String)
  | redirectPlanned (name file : String)
  | redirected (path : String) (bytes : Nat) (digest : String)
  | redirectFailed (cause : RedirectError) (bytes : Nat)
  | fallbackInjected (name : String) (bytes : Nat)
  | verified (path : String) (bytes : Nat)
  | sizeMismatch (path : String) (expected actual : Nat)
  | missingAfterWrite (path : String)
  | verifyFailed (path error : String)
  | pointerUnavailable (pointer : String)
  /-- The workspace under a root cannot be named, so the root is taken. -/
  | rootTaken (root : String) (error : FileError)
  | fileWritten (path : String) (bytes : Nat)
  | alreadyLogging
  deriving DecidableEq

/-- The value of a field. -/
inductive Event.FieldValue where
  | text (s : String)
  | number (n : Nat)
  deriving DecidableEq

namespace Event

/-! ## Making events -/

/-- The event of a decision. -/
def ofDecision : Decision → Event
  | .skip name reason => skipped name reason
  | .inject name _ => injected name
  | .redirect name _ _ file => redirectPlanned name file

/-- The event of a message written to a file. -/
def ofWritten (path value : String) : Event := redirected path value.utf8ByteSize (Sha256.digest value)

/-- The event of a message that does not go to a file. -/
def ofFailure (cause : RedirectError) (value : String) : Event := redirectFailed cause value.utf8ByteSize

/-- The event of a message set as the variable after all. -/
def ofFallback (name value : String) : Event := fallbackInjected name value.utf8ByteSize

/-- The event of a look at a written file; its size is none if it is not there. -/
def ofSize (path : String) (expected : Nat) : Option Nat → Event
  | some actual => if actual = expected then verified path actual else sizeMismatch path expected actual
  | none => missingAfterWrite path

/-! ## What is told -/

/-- The target of the events about variables and messages, and of the span of a contribution. -/
def variableTarget : String := "cienv_core::obs"

/-- The part of the program that tells an event. -/
def target : Event → String
  | pointerUnavailable _ => "cienv_core::contributor"
  | rootTaken .. => "cienv_core::redirect"
  | fileWritten .. => "cienv_host::fs"
  | alreadyLogging => "cienv_core::telemetry"
  | _ => variableTarget

/-- The level of an event. -/
def level : Event → Level
  | redirected .. | fallbackInjected .. => .info
  | redirectFailed .. | sizeMismatch .. | missingAfterWrite _ | verifyFailed .. | pointerUnavailable _ => .warn
  | _ => .debug

/-- The message of an event. -/
def message? : Event → Option String
  | pointerUnavailable _ => some "pointer variable taken, skipping file redirect"
  | rootTaken .. => some "using run root as workspace"
  | fileWritten .. => some "wrote workspace file"
  | alreadyLogging => some "tracing subscriber already installed"
  | _ => none

/-- The name of an event, by which it is found in a log. -/
def name? : Event → Option String
  | skipped .. => some "var.skipped"
  | injected _ => some "var.injected"
  | redirectPlanned .. => some "var.redirect_planned"
  | redirected .. => some "message.redirected"
  | redirectFailed .. => some "message.redirect_failed"
  | fallbackInjected .. => some "message.fallback_injected"
  | verified .. => some "message.verified"
  | sizeMismatch .. => some "message.size_mismatch"
  | missingAfterWrite _ => some "message.missing_after_write"
  | verifyFailed .. => some "message.verify_failed"
  | pointerUnavailable _ => some "message.pointer_unavailable"
  | rootTaken .. | fileWritten .. | alreadyLogging => none

/-- The fields of an event besides its name, in the order of the log. -/
def fields : Event → List (String × FieldValue)
  | skipped name reason => [("name", .text name), ("reason", .text reason.message)]
  | injected name => [("name", .text name)]
  | redirectPlanned name file => [("name", .text name), ("file_name", .text file)]
  | redirected path bytes digest => [("path", .text path), ("bytes", .number bytes), ("sha256", .text digest)]
  | redirectFailed cause bytes => [("error", .text cause.message), ("bytes", .number bytes)]
  | fallbackInjected name bytes => [("name", .text name), ("bytes", .number bytes)]
  | verified path bytes => [("path", .text path), ("bytes", .number bytes)]
  | sizeMismatch path expected actual =>
    [("path", .text path), ("expected", .number expected), ("actual", .number actual)]
  | missingAfterWrite path => [("path", .text path)]
  | verifyFailed path error => [("path", .text path), ("error", .text error)]
  | pointerUnavailable pointer => [("pointer", .text pointer)]
  | rootTaken root error => [("root", .text root), ("error", .text error.message)]
  | fileWritten path bytes => [("path", .text path), ("bytes", .number bytes)]
  | alreadyLogging => []

/-- The key of the name of an event. -/
def nameKey : String := "event"

/-- The key of the message of an event. -/
def messageKey : String := "message"

/-- The names of all fields of an event, of which its name and its message are two. -/
def fieldNames (e : Event) : List String :=
  (e.name?.toList.map fun _ => nameKey) ++ (e.message?.toList.map fun _ => messageKey) ++ e.fields.map (·.1)

end Event

/-- An event, and the run that is contributed to while it happens. -/
structure Record where
  event : Event
  run : Option String
  deriving DecidableEq

/-- The name of the span in which a run is contributed to. -/
def Record.spanName : String := "cienv.contribute"

/-- The field of the span that names the run. -/
def Record.runKey : String := "run_id"

end CiMessage
