import CiMessage.Environment
import CiMessage.ReservedNames

/-!
# Decisions about variables

Each variable of a message is left out, set in the environment, or sent to a file. Reserved names come first, then
variables that are set already; of the others only the message itself goes to a file.
-/

namespace CiMessage

/-- The variable that holds the message itself. -/
def messageName : String := "CI_MESSAGE"

/-- The variable that names the file of the message. -/
def pointerName : String := "CI_MESSAGE_FILE"

/-- The file of the message. -/
def messageFileName : String := ".ci_message.txt"

/-- A variable of a message: its name and its value. -/
abbrev Candidate := String × String

/-- Why a variable is left out. -/
inductive SkipReason where
  | reserved
  | alreadySet
  deriving DecidableEq

/-- The wording of a reason. -/
def SkipReason.message : SkipReason → String
  | reserved => "reserved by job parameter"
  | alreadySet => "already set in environment"

/-- What to do with a variable. -/
inductive Decision where
  | skip (name : String) (reason : SkipReason)
  | inject (name value : String)
  /-- Write the value to a file of the workspace, and its path to a pointer variable. -/
  | redirect (name value pointer file : String)
  deriving DecidableEq

namespace Decision

/-- The variable that is decided about. -/
def name : Decision → String
  | skip name _ => name
  | inject name _ => name
  | redirect name _ _ _ => name

/-- Is the variable left out? -/
def isSkip : Decision → Bool
  | skip .. => true
  | _ => false

/-- The decision to send a message to its file. -/
def redirectMessage (value : String) : Decision := redirect messageName value pointerName messageFileName

/-- The decision about a variable. -/
def decide (reserved : ReservedNames) (env : Environment) (c : Candidate) : Decision :=
  if reserved.contains c.1 then skip c.1 .reserved
  else if env.isSet c.1 then skip c.1 .alreadySet
  else if c.1 = messageName then redirectMessage c.2
  else inject c.1 c.2

/-- The decisions about variables, in their order. -/
def classify (candidates : List Candidate) (reserved : ReservedNames) (env : Environment) : List Decision :=
  candidates.map (decide reserved env)

end Decision

end CiMessage
