import CiMessage.Contribution
import CiMessage.Decision.Json

/-!
# Reports as JSON

A report is written as an object of its three fields, and a skipped variable as a pair of its name and the reason.
-/

namespace CiMessage

open Json (Value)

/-- The JSON value of a delivery. -/
def Delivery.toJson : Delivery → Value
  | file path => .object [("mode", .string "file"), ("path", .string path)]
  | fallback cause => .object [("mode", .string "fallback"), ("cause", .string cause.message)]
  | direct => .object [("mode", .string "direct")]

/-- **A report shows a cause by its wording.** What it has of a message that fell back is this text, and nothing else of the
cause. -/
theorem Report.shows_fallback_iff {r : Report} {shown : String} :
    r.message.map Delivery.toJson = some (.object [("mode", .string "fallback"), ("cause", .string shown)]) ↔
      ∃ cause, r.message = some (.fallback cause) ∧ cause.message = shown := by
  rcases r.message with _ | (path | cause | _) <;> simp [Delivery.toJson]

/-- The JSON value of a report. -/
def Report.toJson (r : Report) : Value :=
  .object [("injected", .array (r.injected.map .string)),
    ("skipped", .array (r.skipped.map fun s => .array [.string s.1, s.2.toJson])),
    ("message", (r.message.map Delivery.toJson).getD .null)]

end CiMessage
