import CiMessage.Proofs.Decisions
import CiMessage.Proofs.Dispatch
import Mathlib.Data.List.Basic

/-!
# Variables are independent

Two contributions are compared that are the same but for one variable, which the messages may have or not, with any value,
and which may be reserved or set for one of them and not for the other (`SameBut`). Unless that variable is the message or
its pointer, nothing else comes out differently: the other variables, the store, the way the message is delivered, and
what the report lists of other names (`contribute_independent`).

The decisions are made name by name, so their lists are the same once the name is removed (`SameBut.filter_plainNames`,
`SameBut.filter_leftOut`). The delivery depends on the message and on whether its pointer is taken (`SameBut.conclude`).
-/

namespace CiMessage

namespace Contributor

variable {c c' : Contributor} {env env' : Environment} {k : String}

/-- Two contributors and two environments that are the same but for one variable. -/
structure SameBut (k : String) (c c' : Contributor) (env env' : Environment) : Prop where
  value : ∀ name, name ≠ k → c.value? name = c'.value? name
  reserved : ∀ name, name ≠ k → c.reserved.contains name = c'.reserved.contains name
  config : c.config = c'.config
  held : ∀ name, name ≠ k → env.get? name = env'.get? name

/-- The names of the message but for one. -/
def namesBut (c : Contributor) (k : String) : List String := c.names.filter (· ≠ k)

/-- The names but for one are listed by the map without it. -/
theorem namesBut_eq_keys (c : Contributor) (k : String) : c.namesBut k = ((c.params.getD ∅).erase k).keys := by
  have hnames : c.names = (c.params.getD ∅).keys := by
    unfold names candidates
    cases c.params <;> rfl
  rw [namesBut, hnames, SortedMap.keys, List.filter_map]
  refine congrArg _ (List.filter_congr fun e _ => ?_)
  simp [eq_comm]

/-- A value of the message is one of the map. -/
theorem value?_eq_get? (c : Contributor) (name : String) : c.value? name = (c.params.getD ∅).get? name := by
  unfold value?
  cases c.params <;> rfl

namespace SameBut

variable (h : SameBut k c c' env env')

include h

theorem isSet {name : String} (hn : name ≠ k) : env.isSet name = env'.isSet name := by
  rw [Environment.isSet_eq_isSome, Environment.isSet_eq_isSome, h.held name hn]

theorem isPlain {name : String} (hn : name ≠ k) :
    Decision.isPlain c.reserved env name = Decision.isPlain c'.reserved env' name := by
  rw [Decision.isPlain, Decision.isPlain, Decision.isFree, Decision.isFree, h.reserved name hn, h.isSet hn]

theorem skipReason? {name : String} (hn : name ≠ k) :
    Decision.skipReason? c.reserved env name = Decision.skipReason? c'.reserved env' name := by
  rw [Decision.skipReason?, Decision.skipReason?, h.reserved name hn, h.isSet hn]

/-- The messages have the same other variables, in the same order. -/
theorem namesBut : c.namesBut k = c'.namesBut k := by
  have herase : (c.params.getD ∅).erase k = (c'.params.getD ∅).erase k := by
    refine SortedMap.ext_get? fun name => ?_
    rw [SortedMap.get?_erase, SortedMap.get?_erase]
    split
    · rfl
    · next hn => rw [← value?_eq_get?, ← value?_eq_get?, h.value name hn]
  rw [namesBut_eq_keys, namesBut_eq_keys, herase]

/-- The other plain variables are the same. -/
theorem filter_plainNames : (c.plainNames env).filter (· ≠ k) = (c'.plainNames env').filter (· ≠ k) := by
  have hcomm : ∀ (d : Contributor) (e : Environment),
      (d.plainNames e).filter (· ≠ k) = (d.namesBut k).filter (Decision.isPlain d.reserved e) := by
    intro d e
    rw [plainNames, Contributor.namesBut, List.filter_filter, List.filter_filter]
    simp only [Bool.and_comm]
  rw [hcomm, hcomm, h.namesBut]
  refine List.filter_congr fun name hn => ?_
  exact h.isPlain (of_decide_eq_true (List.mem_filter.1 hn).2)

/-- What else is left out is the same, for the same reasons. -/
theorem filter_leftOut : (c.leftOut env).filter (·.1 ≠ k) = (c'.leftOut env').filter (·.1 ≠ k) := by
  have hcomm : ∀ (d : Contributor) (e : Environment), (d.leftOut e).filter (·.1 ≠ k) =
      (d.namesBut k).filterMap fun name => (Decision.skipReason? d.reserved e name).map (name, ·) := by
    intro d e
    rw [leftOut, Contributor.namesBut, List.filter_filterMap, List.filterMap_filter]
    congr 1
    funext name
    by_cases hn : name = k <;> cases Decision.skipReason? d.reserved e name <;> simp [hn, Option.filter]
  rw [hcomm, hcomm, h.namesBut]
  refine List.filterMap_congr fun name hn => ?_
  rw [h.skipReason? (of_decide_eq_true (List.mem_filter.1 hn).2)]

/-- The same message is to be delivered, or none. -/
theorem message? (hm : k ≠ messageName) : c.message? env = c'.message? env' := by
  rw [Contributor.message?, Contributor.message?, Decision.isFree, Decision.isFree, h.reserved _ hm.symm, h.isSet hm.symm,
    h.value _ hm.symm]

/-- The other variables are the same after the plain ones. -/
theorem get?_withPlain {name : String} (hn : name ≠ k) : (c.withPlain env).get? name = (c'.withPlain env').get? name := by
  rw [Contributor.get?_withPlain, Contributor.get?_withPlain, h.held name hn, h.reserved name hn, h.value name hn]

/-- The pointer variable is taken for both or for none. -/
theorem isTaken (hp : k ≠ pointerName) :
    c.isTaken (c.withPlain env) pointerName = c'.isTaken (c'.withPlain env') pointerName := by
  rw [Contributor.isTaken, Contributor.isTaken, h.reserved _ hp.symm, Environment.isSet_eq_isSome,
    Environment.isSet_eq_isSome, h.get?_withPlain hp.symm]

variable {σ : Type} [FileStore σ]

/-- The message is delivered the same way, and the other variables are the same afterwards. -/
theorem conclude (hm : k ≠ messageName) (hp : k ≠ pointerName) (run : Run) (store : σ) :
    let out := c.conclude run env store
    let out' := c'.conclude run env' store
    (∀ name, name ≠ k → out.value.1.get? name = out'.value.1.get? name) ∧ out.value.2 = out'.value.2 ∧
      out.store = out'.store := by
  simp only [conclude_eq, h.message? hm, h.isTaken hp, h.config]
  cases c'.message? env' with
  | none => exact ⟨fun name hn => h.get?_withPlain hn, rfl, rfl⟩
  | some text =>
    refine ⟨fun name hn => ?_, rfl, rfl⟩
    rw [Environment.get?_set, Environment.get?_set, h.get?_withPlain hn]

end SameBut

variable {σ : Type} [FileStore σ]

/-- **Variables are independent.** Contributions that are the same but for a variable that is neither the message nor its
pointer come to the same but for that variable. -/
theorem contribute_independent {env env' : Option Environment} (hm : k ≠ messageName) (hp : k ≠ pointerName)
    (hvalue : ∀ name, name ≠ k → c.value? name = c'.value? name)
    (hreserved : ∀ name, name ≠ k → c.reserved.contains name = c'.reserved.contains name)
    (hconfig : c.config = c'.config) (henv : env.isSome = env'.isSome)
    (hheld : ∀ name, name ≠ k → env.bind (·.get? name) = env'.bind (·.get? name)) (run : Run) (store : σ) :
    let out := c.contribute run env store
    let out' := c'.contribute run env' store
    (∀ name, name ≠ k → out.get? name = out'.get? name) ∧ out.store = out'.store ∧
    out.report.message = out'.report.message ∧
    out.report.injected.filter (· ≠ k) = out'.report.injected.filter (· ≠ k) ∧
    out.report.skipped.filter (·.1 ≠ k) = out'.report.skipped.filter (·.1 ≠ k) := by
  rcases env with _ | env <;> rcases env' with _ | env'
  · rw [contribute_none, contribute_none]
    exact ⟨fun _ _ => rfl, rfl, rfl, rfl, rfl⟩
  · cases henv
  · cases henv
  have h : SameBut k c c' env env' := ⟨hvalue, hreserved, hconfig, hheld⟩
  obtain ⟨hget, hdelivery, hstore⟩ := h.conclude hm hp run store
  simp only [contribute_by_names, List.filter_append, h.filter_plainNames, h.filter_leftOut, hdelivery, hstore]
  exact ⟨hget, trivial, trivial, trivial, trivial⟩

/-- Who sent a message does not matter to its delivery, be the name of the sender injected, or reserved and set already. -/
theorem contribute_independent_of_actor :
    let params : SortedMap String String := .ofList [(messageName, "hello")]
    let c : Contributor := ⟨some (params.insert "CI_ACTOR" "ada"), .empty, .default⟩
    let c' : Contributor := ⟨some params, ReservedNames.empty.insert "CI_ACTOR", .default⟩
    let run : Run := ⟨"pipeline", .rooted (some (.ofText "/jobs/4"))⟩
    let out := c.contribute run (some ∅) MemoryStore.empty
    let out' := c'.contribute run (some (Environment.set ∅ "CI_ACTOR" "grace")) MemoryStore.empty
    out.get? pointerName = out'.get? pointerName ∧ out.store = out'.store ∧ out.report.message = out'.report.message ∧
      out.report.injected.filter (· ≠ "CI_ACTOR") = out'.report.injected.filter (· ≠ "CI_ACTOR") ∧
      out.report.skipped.filter (·.1 ≠ "CI_ACTOR") = out'.report.skipped.filter (·.1 ≠ "CI_ACTOR") := by
  intro params c c' run out out'
  have hvalue : ∀ name, name ≠ "CI_ACTOR" → c.value? name = c'.value? name := fun name hn => by
    rw [value?, value?, Option.bind_some, Option.bind_some, SortedMap.get?_insert, if_neg hn]
  have hreserved : ∀ name, name ≠ "CI_ACTOR" → c.reserved.contains name = c'.reserved.contains name := fun name hn => by
    rw [ReservedNames.contains_insert, decide_eq_false hn, Bool.false_or]
  have hheld : ∀ name, name ≠ "CI_ACTOR" → (some ∅ : Option Environment).bind (·.get? name) =
      (some (Environment.set ∅ "CI_ACTOR" "grace")).bind (·.get? name) := fun name hn => by
    rw [Option.bind_some, Option.bind_some, Environment.get?_set, if_neg hn]
  have henv : (some ∅ : Option Environment).isSome = (some (Environment.set ∅ "CI_ACTOR" "grace")).isSome := rfl
  obtain ⟨hget, hrest⟩ := contribute_independent (by decide) (by decide) hvalue hreserved rfl henv hheld run
    MemoryStore.empty
  exact ⟨hget pointerName (by decide), hrest⟩

end Contributor

end CiMessage
