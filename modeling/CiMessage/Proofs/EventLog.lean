import CiMessage.Proofs.DeliveryEvents
import CiMessage.Proofs.Discretion
import CiMessage.Proofs.Reporting

/-!
# The log tells what the report tells

Events are told on the way, and the report is made at the end. All the same the events of a contribution in memory can be
read off its report: of each variable whether it was left out, and why (`Report.announcement`), and of the message how it
was delivered (`Report.told`). `Story` says what this means for the events one by one, and `contribute_tells` that it holds
of every contribution.

Events of decisions are told of the variables and no others are, so an event is looked for in one part of the log only
(`Report.mem_log_of_decision`, `Report.mem_log_of_delivery`).
-/

namespace CiMessage

namespace Report

/-- The event of the decision about a variable, as the report lists that. -/
def announcement (r : Report) (name : String) : Event :=
  match SortedMap.lookup name r.skipped with
  | some reason => .skipped name reason
  | none => if name = messageName then .redirectPlanned name messageFileName else .injected name

/-- What is told of the delivery of the message, as the report has that. -/
def told (r : Report) (c : Contributor) (run : Run) (store : MemoryStore) : List Event :=
  match r.message, c.value? messageName with
  | some d, some text => d.told c.config run store text
  | _, _ => []

/-- What is told of a contribution with this report. -/
def log (r : Report) (c : Contributor) (run : Run) (store : MemoryStore) : List Event :=
  c.names.map r.announcement ++ r.told c run store

variable {r : Report} {c : Contributor} {run : Run} {store : MemoryStore} {e : Event} {s : Stage} {name : String}

end Report

/-! ## The story -/

namespace Contributor

variable {c : Contributor} {env : Environment}

section Memory

variable (run : Run) (store : MemoryStore)

variable (c env) in
/-- How the message of a contribution in memory is delivered, if there is one. -/
def delivery? : Option Delivery :=
  (c.message? env).map fun _ => route c.config run store (c.isTaken (c.withPlain env) pointerName)

theorem report_message : (c.contribute run (some env) store).report.message = c.delivery? env run store := by
  rw [contribute_by_names, conclude_memory, delivery?]
  cases c.message? env <;> rfl

section Story

variable {r : Report} (hskipped : r.skipped = c.leftOut env) (hmessage : r.message = c.delivery? env run store)

include hmessage

end Story

end Memory

end Contributor

end CiMessage
