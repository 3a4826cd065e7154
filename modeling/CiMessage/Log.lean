import CiMessage.Log.Filter
import CiMessage.Log.Line

/-!
# Logs

A log is silent until it is started with a format and a filter, and it can be started once. Starting it again changes
nothing, and this is told in it. A text that cannot be cut into directives is an error, which ends the program.
-/

namespace CiMessage

/-- How lines are written. -/
inductive Log.Format where
  | text
  | json
  deriving DecidableEq

/-- How events are logged. -/
structure Log.Logger where
  format : Log.Format
  filter : Log.Filter

/-- A log and its lines, the last one first. -/
structure Log where
  logger : Option Log.Logger
  reversed : List Log.Line

namespace Log

/-- The variable of the format. -/
def formatName : String := "CIENV_LOG_FORMAT"

/-- The format that the process asks for: JSON by its name, in letters of any size and with white space around it. -/
def Format.ofEnvironment (env : Environment.Raw) : Format :=
  if (env.get? formatName).any fun s => Text.lowerAscii (Text.trim s) == "json" then .json else .text

/-- The line of an event that is logged. The run is named if its span is opened. -/
def Logger.line? (l : Logger) (r : Record) : Option Line :=
  if l.filter.admits r then
    let run := r.run.filter fun _ => l.filter.opensSpan
    some <|
      match l.format with
      | .text => textLine r.event run
      | .json => jsonLine r.event run
  else none

/-- A log that is not started. -/
def silent : Log := ⟨none, []⟩

/-- The lines from first to last. -/
def lines (log : Log) : List Line := log.reversed.reverse

/-- Logs an event. -/
def tell (log : Log) (r : Record) : Log :=
  match log.logger.bind (·.line? r) with
  | some line => { log with reversed := line :: log.reversed }
  | none => log

/-- Logs events. -/
def tellAll (log : Log) (rs : List Record) : Log := rs.foldl tell log

/-- Starts a log. -/
def start (log : Log) (format : Format) (filter : Filter) : Log :=
  match log.logger with
  | none => { log with logger := some ⟨format, filter⟩ }
  | some _ => log.tell ⟨.alreadyLogging, none⟩

/-- Starts a log in a format, with a level for when the process asks for none. -/
def startWith (log : Log) (env : Environment.Raw) (format : Format) (level : Level) : Except DirectiveError Log :=
  match Filter.ofEnvironment env level with
  | .ok filter => .ok (log.start format filter)
  | .error e => .error e

/-- Starts a log as the process asks for. -/
def startFromEnvironment (log : Log) (env : Environment.Raw) : Except DirectiveError Log :=
  log.startWith env (Format.ofEnvironment env) .info

end Log

end CiMessage
