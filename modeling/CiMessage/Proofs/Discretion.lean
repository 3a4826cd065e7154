import CiMessage.Proofs.Decisions
import CiMessage.Proofs.Dispatch

/-!
# Values are not told

Two contributions are compared that differ in nothing but values: those that the message has for its variables, and those
of the variables that are set already. What both report is the same, and what both tell is the same but for the length and
the digest of the message itself (`contribute_discreet`).

Decisions are listed and told by names. A delivery in memory takes the same route whatever the text is, and of the text it
tells the length and the digest only (`tellings_withoutDigest`).
-/

namespace CiMessage

/-- An event without the digest of the message. -/
def Event.withoutDigest : Event → Event
  | redirected path bytes _ => redirected path bytes ""
  | e => e

/-- A record without the digest of the message. -/
def Record.withoutDigest (r : Record) : Record := { r with event := r.event.withoutDigest }

theorem Record.map_withoutDigest (run : Option String) (events : List Event) :
    (events.map (⟨·, run⟩)).map Record.withoutDigest = (events.map Event.withoutDigest).map (⟨·, run⟩) := by
  rw [List.map_map, List.map_map]
  rfl

/-- Of texts of the same length the same is told, but for the digest. -/
theorem tellings_withoutDigest {text text' : String} (h : text.utf8ByteSize = text'.utf8ByteSize) (config : Config)
    (run : Run) (store : MemoryStore) (taken : Bool) :
    (tellings config run store taken text).map Event.withoutDigest =
      (tellings config run store taken text').map Event.withoutDigest := by
  have hwritten : ∀ path, (Event.ofWritten path text).withoutDigest = (Event.ofWritten path text').withoutDigest := by
    intro path
    simp only [Event.ofWritten, Event.withoutDigest, h]
  unfold tellings
  cases config.redirectEnabled with
  | false => rfl
  | true =>
    cases taken with
    | true => simp [Event.ofFallback, h]
    | false =>
      cases run.destination config.workspaceSubdir store messageFileName with
      | error cause => simp [Event.ofFailure, Event.ofFallback, h]
      | ok path => simp [hwritten, h]

namespace Contributor

variable {c c' : Contributor} {env env' : Environment}

/-- What the parameters are called is what the variables of the message are called. -/
theorem names_congr (hp : c.params.map SortedMap.keys = c'.params.map SortedMap.keys) : c.names = c'.names := by
  have hnames : ∀ d : Contributor, d.names = (d.params.map SortedMap.keys).getD [] := by
    intro d
    unfold names candidates
    cases d.params <;> rfl
  rw [hnames, hnames, hp]

/-- The names that are set are the variables that are set. -/
theorem isSet_congr (he : env.keys = env'.keys) (name : String) : env.isSet name = env'.isSet name := by
  have hmem : env.contains name = true ↔ env'.contains name = true := by
    rw [← SortedMap.mem_keys_iff, he, SortedMap.mem_keys_iff]
  exact Bool.eq_iff_iff.2 hmem

/-- Two contributors and two environments that differ in values only. -/
structure SameNames (c c' : Contributor) (env env' : Environment) : Prop where
  names : c.names = c'.names
  reserved : c.reserved = c'.reserved
  config : c.config = c'.config
  isSet : ∀ name, env.isSet name = env'.isSet name

namespace SameNames

variable (h : SameNames c c' env env')

include h

theorem isFree (name : String) : Decision.isFree c.reserved env name = Decision.isFree c'.reserved env' name := by
  rw [Decision.isFree, Decision.isFree, h.reserved, h.isSet]

theorem skipReason? (name : String) :
    Decision.skipReason? c.reserved env name = Decision.skipReason? c'.reserved env' name := by
  rw [Decision.skipReason?, Decision.skipReason?, h.reserved, h.isSet]

theorem isSome_value? (name : String) : (c.value? name).isSome = (c'.value? name).isSome := by
  rw [Bool.eq_iff_iff, ← mem_names_iff, ← mem_names_iff, h.names]

/-- The same names are injected at once. -/
theorem plainNames : c.plainNames env = c'.plainNames env' := by
  rw [Contributor.plainNames, Contributor.plainNames, h.names]
  refine List.filter_congr fun name _ => ?_
  rw [Decision.isPlain, Decision.isPlain, h.isFree]

/-- The same names are left out for the same reasons. -/
theorem leftOut : c.leftOut env = c'.leftOut env' := by
  rw [Contributor.leftOut, Contributor.leftOut, h.names]
  congr 1
  funext name
  rw [h.skipReason?]

/-- The same is told of the names. -/
theorem announced : c.names.map (Decision.announcement c.reserved env) =
    c'.names.map (Decision.announcement c'.reserved env') := by
  rw [h.names]
  refine List.map_congr_left fun name _ => ?_
  rw [Decision.announcement, Decision.announcement, h.skipReason?]

/-- The pointer variable is taken for both or for none. -/
theorem isTaken : c.isTaken (c.withPlain env) pointerName = c'.isTaken (c'.withPlain env') pointerName := by
  rw [isTaken_withPlain c env pointerName_ne_messageName, isTaken_withPlain c' env' pointerName_ne_messageName,
    Contributor.isTaken, Contributor.isTaken, h.reserved, h.isSet, h.isSome_value?]

/-- Both have a message to deliver, or none has. -/
theorem message? : (c.message? env).isSome = (c'.message? env').isSome := by
  rw [Contributor.message?, Contributor.message?, h.isFree]
  split
  · exact h.isSome_value? messageName
  · rfl

end SameNames

/-- The text to deliver is the value that the message has for itself. -/
theorem value?_of_message? {text : String} (hm : c.message? env = some text) : c.value? messageName = some text :=
  (message?_eq_some_iff.1 hm).2.2

/-- **Values are not told.** Contributions that differ in values only report the same. If their messages are equally long,
they tell the same but for the digest, and if their messages are the same, they tell the same. -/
theorem contribute_discreet {env env' : Option Environment}
    (hparams : c.params.map SortedMap.keys = c'.params.map SortedMap.keys) (hreserved : c.reserved = c'.reserved)
    (hconfig : c.config = c'.config) (henv : env.map SortedMap.keys = env'.map SortedMap.keys) (run : Run)
    (store : MemoryStore) :
    let out := c.contribute run env store
    let out' := c'.contribute run env' store
    out.report = out'.report ∧
    ((∀ text text', c.value? messageName = some text → c'.value? messageName = some text' →
        text.utf8ByteSize = text'.utf8ByteSize) →
      out.records.map Record.withoutDigest = out'.records.map Record.withoutDigest) ∧
    (c.value? messageName = c'.value? messageName → out.records = out'.records) := by
  rcases env with _ | env <;> rcases env' with _ | env'
  · rw [contribute_none, contribute_none]
    exact ⟨rfl, fun _ => rfl, fun _ => rfl⟩
  · cases henv
  · cases henv
  have h : SameNames c c' env env' := ⟨names_congr hparams, hreserved, hconfig, isSet_congr (Option.some.inj henv)⟩
  have hsome := h.message?
  simp only [contribute_by_names, conclude_memory, ← h.plainNames, ← h.leftOut, ← h.announced, ← h.isTaken, ← h.config]
  rcases hm : c.message? env with _ | text <;> rcases hm' : c'.message? env' with _ | text'
  · exact ⟨rfl, fun _ => rfl, fun _ => rfl⟩
  · rw [hm, hm'] at hsome
    cases hsome
  · rw [hm, hm'] at hsome
    cases hsome
  · refine ⟨rfl, fun hsize => ?_, fun hv => ?_⟩
    · have htellings := tellings_withoutDigest (hsize _ _ (value?_of_message? hm) (value?_of_message? hm')) c.config run
        store (c.isTaken (c.withPlain env) pointerName)
      simp only [Record.map_withoutDigest, List.map_append, htellings]
    · rw [value?_of_message? hm, value?_of_message? hm', Option.some.injEq] at hv
      rw [hv]

/-- Two messages of five letters, beside other variables with other values, are told alike but for the digest. -/
theorem contribute_discreet_equally_long :
    let c : Contributor := ⟨some (.ofList [(messageName, "hello"), ("CI_ACTOR", "ada")]), .empty, .default⟩
    let c' : Contributor := ⟨some (.ofList [(messageName, "world"), ("CI_ACTOR", "grace")]), .empty, .default⟩
    let run : Run := ⟨"pipeline", .rooted (some (.ofText "/jobs/4"))⟩
    let out := c.contribute run (some (.ofList [("HOME", "/root")])) MemoryStore.empty
    let out' := c'.contribute run (some (.ofList [("HOME", "/home/ci")])) MemoryStore.empty
    out.report = out'.report ∧ out.records.map Record.withoutDigest = out'.records.map Record.withoutDigest := by
  intro c c' run out out'
  have hparams : c.params.map SortedMap.keys = c'.params.map SortedMap.keys := by decide
  have henv : (some (.ofList [("HOME", "/root")]) : Option Environment).map SortedMap.keys =
      (some (.ofList [("HOME", "/home/ci")]) : Option Environment).map SortedMap.keys := by decide
  have hvalue : c.value? messageName = some "hello" := by decide
  have hvalue' : c'.value? messageName = some "world" := by decide
  have h := contribute_discreet hparams rfl rfl henv run MemoryStore.empty
  refine ⟨h.1, h.2.1 fun text text' ht ht' => ?_⟩
  cases ht.symm.trans hvalue
  cases ht'.symm.trans hvalue'
  decide

end Contributor

end CiMessage
