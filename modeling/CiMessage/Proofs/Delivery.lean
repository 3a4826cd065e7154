import CiMessage.Proofs.Contribution
import CiMessage.Proofs.MemoryStore

/-!
# A message comes to one place

A message that is neither reserved nor set ends either as its variable, with the store as it was (`InVariable`), or in a
file that the pointer variable names, without being a variable (`InFile`). Which of the two happens is known beforehand:
`FileOpen` says when the file can be had. `message_in_one_place` gives, for runs with a store in memory, the three modes
of delivery with their conditions, of which always exactly one holds.
-/

namespace CiMessage

namespace Contributor

/-- The file of the message can be had: its pointer variable is nowhere in the way, the run has a place for it, and
writes are not made to fail. -/
structure FileOpen (c : Contributor) (run : Run) (env : Environment) (store : MemoryStore) : Prop where
  unreserved : c.reserved.contains pointerName = false
  unset : env.isSet pointerName = false
  unclaimed : c.value? pointerName = none
  place : run.HasPlace
  writable : store.failure = none

/-- The message is its variable and nowhere else: nothing was written, and the pointer variable has the value it had, or
that which the message has for it. -/
structure InVariable (c : Contributor) (env : Environment) (store : MemoryStore) (value : String)
    (out : Contribution MemoryStore) : Prop where
  message : out.get? messageName = some value
  pointer : out.get? pointerName =
    (env.get? pointerName).or (if c.reserved.contains pointerName then none else c.value? pointerName)
  store : out.store = store

/-- The message is in a file and nowhere else: one file was written, and the pointer variable names it. -/
structure InFile (store : MemoryStore) (value path : String) (out : Contribution MemoryStore) : Prop where
  message : out.get? messageName = none
  pointer : out.get? pointerName = some path
  content : out.store.contents path = some value
  others : ∀ other, other ≠ path → out.store.contents other = store.contents other
  writes : out.store.writes = store.writes + 1

variable {c : Contributor} {run : Run} {env : Environment} {store : MemoryStore} {value : String}

/-- The file can be had when the pointer variable is not taken and the redirection succeeds. -/
theorem fileOpen_iff : c.FileOpen run env store ↔
    c.isTaken (c.withPlain env) pointerName = false ∧ run.HasPlace ∧ store.failure = none := by
  rw [isTaken_pointer_eq_false_iff]
  exact ⟨fun h => ⟨⟨h.unreserved, h.unset, h.unclaimed⟩, h.place, h.writable⟩,
    fun ⟨⟨hr, hs, hv⟩, hp, hf⟩ => ⟨hr, hs, hv, hp, hf⟩⟩

/-- The message set over the plain variables is in its variable, whatever was told on the way. -/
theorem inVariable_set (report : Report) (records : List Record) :
    c.InVariable env store value ⟨some ((c.withPlain env).set messageName value), store, report, records⟩ := by
  refine ⟨by simp [Contribution.get?], ?_, rfl⟩
  simp [Contribution.get?, pointerName_ne_messageName, get?_withPlain]

/-- The pointer set over the plain variables, and the file put into the store. -/
theorem inFile_set {path : String} (hm : c.message? env = some value) (report : Report) (records : List Record) :
    InFile store value path ⟨some ((c.withPlain env).set pointerName path), store.put path value, report, records⟩ := by
  have hnone := (message?_eq_some_iff.1 hm).2.1
  refine ⟨?_, by simp [Contribution.get?], by simp, fun other ho => by simp [ho], rfl⟩
  simp [Contribution.get?, pointerName_ne_messageName.symm, get?_withPlain_message, hnone]

/-- **A message comes to one place.** It is delivered directly when messages are not to go to files; of the others it goes
to its file when that can be had, and is set as its variable in place of the file when not. -/
theorem message_in_one_place (hv : c.value? messageName = some value) (hr : c.reserved.contains messageName = false)
    (hs : env.isSet messageName = false) :
    let out := c.contribute run (some env) store
    ((out.report.message = some .direct ∧ c.InVariable env store value out) ↔ c.config.redirectEnabled = false) ∧
    ((∃ path, out.report.message = some (.file path) ∧ InFile store value path out) ↔
      c.config.redirectEnabled = true ∧ c.FileOpen run env store) ∧
    ((∃ cause, out.report.message = some (.fallback cause) ∧ c.InVariable env store value out) ↔
      c.config.redirectEnabled = true ∧ ¬ c.FileOpen run env store) := by
  have hmessage : c.message? env = some value :=
    message?_eq_some_iff.2 ⟨hr, Environment.isSet_eq_false_iff.1 hs, hv⟩
  rw [contribute_eq]
  have h := c.concludes run env store
  generalize c.conclude run env store = out at h ⊢
  cases h with
  | silent hm => rw [hm] at hmessage; cases hmessage
  | direct hm hd =>
    cases hm.symm.trans hmessage
    simp [hd, inVariable_set]
  | guarded hm he ht =>
    cases hm.symm.trans hmessage
    simp [he, inVariable_set, fileOpen_iff, ht]
  | failed hm he ht ho =>
    cases hm.symm.trans hmessage
    have hclosed : ¬ (run.HasPlace ∧ store.failure = none) := by
      rw [← run.redirectMessage_ok_iff c.config store value, ho]
      simp
    cases Run.store_of_redirect_error ho
    simp only [fileOpen_iff, hclosed]
    simp [he, inVariable_set]
  | filed hm he ht ho =>
    cases hm.symm.trans hmessage
    have hopen : run.HasPlace ∧ store.failure = none := by
      rw [← run.redirectMessage_ok_iff c.config store value, ho]
      exact ⟨_, rfl⟩
    cases Run.store_of_redirect_ok ho
    simp [he, fileOpen_iff, ht, hopen, inFile_set hm]

/-- Under a root a message has its file, even if the subdirectory is none that a configuration may name. -/
theorem message_in_one_place_under_root :
    let c : Contributor := ⟨some (.ofList [(messageName, "hello")]), .empty, ⟨true, true, "../up"⟩⟩
    let out := c.contribute ⟨"pipeline", .rooted (some (.ofText "/jobs/4"))⟩ (some ∅) MemoryStore.empty
    c.value? messageName = some "hello" ∧
      ∃ path, out.report.message = some (.file path) ∧ InFile .empty "hello" path out :=
  ⟨by decide, (message_in_one_place (by decide) (by decide) (by decide)).2.1.2
    ⟨rfl, by decide, by decide, by decide, ⟨_, rfl, by decide⟩, rfl⟩⟩

end Contributor

end CiMessage
