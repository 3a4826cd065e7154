import CiMessage.Proofs.Conservation
import CiMessage.Proofs.EventLog
import Mathlib.Data.List.Forall2

/-!
# Reserving more names

Two contributions are compared of which the second has more names reserved. It sets no variable that the first one does
not set to the same value, with one exception: when the pointer variable is among the names that are reserved, a message
that had a file is its own variable instead (`Delivery.guarded`, `Contributor.delivery?_withReserved`). What it writes is
what the first one writes, if anything (`contribute_withReserved`).
-/

namespace CiMessage

/-- All names of the one are names of the other. -/
def ReservedNames.Within (r r' : ReservedNames) : Prop := ∀ name, r.contains name = true → r'.contains name = true

/-- A contribution to an environment sets a variable that was not set. -/
def Contribution.Sets {σ : Type} (out : Contribution σ) (env : Option Environment) (name value : String) : Prop :=
  env.bind (·.get? name) = none ∧ out.get? name = some value

/-- The contributor for a job with other reserved names. -/
def Contributor.withReserved (c : Contributor) (r : ReservedNames) : Contributor := { c with reserved := r }

variable {r r' : ReservedNames}

/-! ## Decisions -/

theorem ReservedNames.Within.contains_eq_false (h : r.Within r') {name : String} (hn : r'.contains name = false) :
    r.contains name = false := by
  rw [← Bool.not_eq_true] at hn ⊢
  exact fun hr => hn (h name hr)

namespace Decision

theorem name_decide (reserved : ReservedNames) (env : Environment) (c : Candidate) :
    (decide reserved env c).name = c.1 := by
  unfold decide
  cases reserved.contains c.1 <;> cases env.isSet c.1 <;> by_cases hm : c.1 = messageName <;>
    simp [hm, name, redirectMessage]

variable (h : r.Within r') (env : Environment)

include h

/-- With more names reserved a variable is decided about as before, or it is left out as reserved. -/
theorem decide_of_within (c : Candidate) :
    decide r' env c = decide r env c ∨ decide r' env c = .skip (decide r env c).name .reserved := by
  cases hr : r'.contains c.1 with
  | true => exact .inr (by rw [name_decide, decide, if_pos hr])
  | false => exact .inl (by simp [decide, hr, h.contains_eq_false hr])

theorem classify_of_within (candidates : List Candidate) :
    List.Forall₂ (fun d d' => d' = d ∨ d' = .skip d.name .reserved) (classify candidates r env)
      (classify candidates r' env) := by
  rw [classify, classify, List.forall₂_map_left_iff, List.forall₂_map_right_iff, List.forall₂_same]
  exact fun c _ => decide_of_within h env c

end Decision

/-! ## The delivery -/

/-- What becomes of a delivery once the pointer variable is taken. -/
def Delivery.guarded : Delivery → Delivery
  | direct => direct
  | _ => fallback (.pointerUnavailable pointerName)

theorem route_taken (config : Config) (run : Run) (store : MemoryStore) (taken : Bool) :
    route config run store true = (route config run store taken).guarded := by
  unfold route
  cases config.redirectEnabled with
  | false => rfl
  | true =>
    cases taken with
    | true => rfl
    | false => cases run.destination config.workspaceSubdir store messageFileName <;> rfl

namespace Contributor

variable {c : Contributor} {env : Environment}

/-- The pointer variable is taken as before, or since it is reserved. -/
theorem isTaken_withReserved (h : c.reserved.Within r) :
    (c.withReserved r).isTaken ((c.withReserved r).withPlain env) pointerName =
      (c.isTaken (c.withPlain env) pointerName || r.contains pointerName) := by
  rw [isTaken_withPlain _ _ pointerName_ne_messageName, isTaken_withPlain _ _ pointerName_ne_messageName, isTaken,
    isTaken]
  change ((r.contains pointerName || _) || (c.value? pointerName).isSome) = _
  cases hr : r.contains pointerName with
  | true => simp
  | false => simp [h.contains_eq_false hr]

theorem message?_withReserved (h : c.reserved.Within r) : (c.withReserved r).message? env =
    if r.contains messageName then none else c.message? env := by
  rw [message?, message?, Decision.isFree, Decision.isFree]
  change (if (!r.contains messageName && _) = true then c.value? messageName else none) = _
  cases hr : r.contains messageName with
  | true => simp
  | false => simp [h.contains_eq_false hr]

/-- **With more names reserved** a message is left out, or it is delivered as before, or its pointer variable is taken. -/
theorem delivery?_withReserved (h : c.reserved.Within r) (run : Run) (store : MemoryStore) :
    (c.withReserved r).delivery? env run store =
      if r.contains messageName then none
      else if r.contains pointerName then (c.delivery? env run store).map Delivery.guarded
      else c.delivery? env run store := by
  rw [delivery?, delivery?, message?_withReserved h, isTaken_withReserved h]
  cases r.contains messageName with
  | true => rfl
  | false =>
    cases r.contains pointerName with
    | false =>
      simp only [Bool.or_false]
      rfl
    | true =>
      have hroute : route (c.withReserved r).config run store true =
          (route c.config run store (c.isTaken (c.withPlain env) pointerName)).guarded := route_taken ..
      simp only [Bool.or_true, hroute]
      cases c.message? env <;> rfl

theorem delivery?_file_of_withReserved (h : c.reserved.Within r) {run : Run} {store : MemoryStore} {path : String}
    (hd : (c.withReserved r).delivery? env run store = some (.file path)) :
    c.delivery? env run store = some (.file path) := by
  rw [delivery?_withReserved h] at hd
  cases hm : r.contains messageName with
  | true => simp [hm] at hd
  | false =>
    cases hp : r.contains pointerName with
    | false => simpa [hm, hp] using hd
    | true =>
      simp only [hm, hp, Bool.false_eq_true, if_false, if_true] at hd
      obtain ⟨d, -, hg⟩ := Option.map_eq_some_iff.1 hd
      cases d <;> cases hg

section Results

variable (run : Run) (store : MemoryStore)

/-- The message is a variable afterwards when it was delivered otherwise than to a file. -/
theorem exists_get?_message_iff (hnone : env.get? messageName = none) :
    (∃ value, (c.contribute run (some env) store).get? messageName = some value) ↔
      ∃ d, c.delivery? env run store = some d ∧ ∀ path, d ≠ .file path := by
  rw [contribute_by_names, conclude_memory, delivery?]
  cases c.message? env with
  | none => simp [Contribution.get?, get?_withPlain_message, hnone]
  | some text =>
    cases route c.config run store (c.isTaken (c.withPlain env) pointerName) <;>
      simp [Contribution.get?, Delivery.name, get?_withPlain_message, hnone, pointerName_ne_messageName.symm]

theorem get?_pointer_of_file {path : String} (hd : c.delivery? env run store = some (.file path)) :
    (c.contribute run (some env) store).get? pointerName = some path := by
  obtain ⟨text, hm, hroute⟩ := Option.map_eq_some_iff.1 hd
  rw [contribute_by_names, conclude_memory, hm, hroute]
  simp [Contribution.get?, Delivery.name, Delivery.value]

/-- The store has one more file when the message was delivered to it, and else it is as it was. -/
theorem store_contribute : (c.contribute run (some env) store).store =
    match c.delivery? env run store, c.value? messageName with
    | some (.file path), some text => store.put path text
    | _, _ => store := by
  rw [contribute_by_names, conclude_memory, delivery?]
  cases hm : c.message? env with
  | none => rfl
  | some text =>
    rw [value?_of_message? hm]
    cases route c.config run store (c.isTaken (c.withPlain env) pointerName) <;> rfl

/-- What is set with more names reserved is set to the same value, unless it is the message. -/
theorem sets_of_withReserved (h : c.reserved.Within r) {name value : String}
    (hs : ((c.withReserved r).contribute run (some env) store).Sets (some env) name value) :
    (c.contribute run (some env) store).Sets (some env) name value ∨
      name = messageName ∧ ∀ v, ¬ (c.contribute run (some env) store).Sets (some env) name v := by
  obtain ⟨hnone, hvalue⟩ := hs
  obtain ⟨after, hafter, hconserves⟩ := c.contribute_conserves run env store
  obtain ⟨after', hafter', hconserves'⟩ := (c.withReserved r).contribute_conserves run env store
  have hget : ∀ x, (c.contribute run (some env) store).get? x = after.get? x := fun x => by
    rw [Contribution.get?, hafter, Option.bind_some]
  rw [Contribution.get?, hafter', Option.bind_some] at hvalue
  rw [Option.bind_some] at hnone
  rcases hconserves'.founded name value hnone hvalue with hv | ⟨rfl, hd⟩
  · have hr : r.contains name = false := by
      rw [← Bool.not_eq_true]
      intro hr
      cases hvalue.symm.trans (hconserves'.unreserved name hr hnone)
    by_cases hm : name = messageName
    · subst hm
      by_cases hset : ∃ v, (c.contribute run (some env) store).get? messageName = some v
      · obtain ⟨v, hset⟩ := hset
        rcases hconserves.founded messageName v hnone (hget messageName ▸ hset) with hv' | ⟨hp, -⟩
        · cases hv'.symm.trans hv
          exact .inl ⟨hnone, hset⟩
        · exact absurd hp.symm pointerName_ne_messageName
      · exact .inr ⟨rfl, fun v hs => hset ⟨v, hs.2⟩⟩
    · exact .inl ⟨hnone, (hget name).trans (hconserves.verbatim name value hv hm (h.contains_eq_false hr) hnone)⟩
  · rw [report_message] at hd
    exact .inl ⟨hnone, get?_pointer_of_file run store (delivery?_file_of_withReserved h hd)⟩

/-- The message is set only with more names reserved when the pointer variable is one of them and the message is not, and
else it had a file. -/
theorem sets_message_iff (h : c.reserved.Within r) :
    ((∃ value, ((c.withReserved r).contribute run (some env) store).Sets (some env) messageName value) ∧
        ∀ value, ¬ (c.contribute run (some env) store).Sets (some env) messageName value) ↔
      (∃ path, (c.contribute run (some env) store).report.message = some (.file path)) ∧
        r.contains pointerName = true ∧ r.contains messageName = false := by
  rw [report_message]
  cases hnone : env.get? messageName with
  | some value =>
    have hdelivery : c.delivery? env run store = none := by
      simp [delivery?, message?, Decision.isFree, Environment.isSet_eq_isSome, hnone]
    simp [Contribution.Sets, hnone, hdelivery]
  | none =>
    have hset := exists_get?_message_iff (c := c) run store hnone
    have hset' := exists_get?_message_iff (c := c.withReserved r) run store hnone
    rw [delivery?_withReserved h] at hset'
    simp only [Contribution.Sets, Option.bind_some, hnone, true_and, ← not_exists, hset, hset']
    cases r.contains messageName <;> cases r.contains pointerName <;>
      rcases c.delivery? env run store with _ | (_ | _ | _) <;> simp [Delivery.guarded]

/-- A file that is written with more names reserved is written without them. -/
theorem store_withReserved (h : c.reserved.Within r) :
    ((c.withReserved r).contribute run (some env) store).store = store ∨
      ∃ path text, c.value? messageName = some text ∧
        (c.contribute run (some env) store).report.message = some (.file path) ∧
        ((c.withReserved r).contribute run (some env) store).report.message = some (.file path) ∧
        (c.contribute run (some env) store).store = store.put path text ∧
        ((c.withReserved r).contribute run (some env) store).store = store.put path text := by
  by_cases hfile : ∃ path, (c.withReserved r).delivery? env run store = some (.file path)
  · obtain ⟨path, hd'⟩ := hfile
    have hd := delivery?_file_of_withReserved h hd'
    obtain ⟨text, hm, -⟩ := Option.map_eq_some_iff.1 hd
    have hv : c.value? messageName = some text := value?_of_message? hm
    have hv' : (c.withReserved r).value? messageName = some text := hv
    refine .inr ⟨path, text, hv, ?_, ?_, ?_, ?_⟩
    · rw [report_message, hd]
    · rw [report_message, hd']
    · rw [store_contribute, hd, hv]
    · rw [store_contribute, hd', hv']
  · left
    rw [store_contribute]
    split
    · next path text hd _ => exact absurd ⟨path, hd⟩ hfile
    · rfl

end Results

/-- **Reserving more names sets no more variables**, but for a message whose pointer variable is reserved while it is not.
No more is written either, and each variable is decided about as before or left out as reserved. -/
theorem contribute_withReserved (h : c.reserved.Within r) (run : Run) (env : Option Environment) (store : MemoryStore) :
    let out := c.contribute run env store
    let out' := (c.withReserved r).contribute run env store
    (∀ name value, out'.Sets env name value →
      out.Sets env name value ∨ name = messageName ∧ ∀ v, ¬ out.Sets env name v) ∧
    (((∃ value, out'.Sets env messageName value) ∧ ∀ value, ¬ out.Sets env messageName value) ↔
      (∃ path, out.report.message = some (.file path)) ∧
        r.contains pointerName = true ∧ r.contains messageName = false) ∧
    (out'.store = store ∨
      ∃ path text, c.value? messageName = some text ∧ out.report.message = some (.file path) ∧
        out'.report.message = some (.file path) ∧ out.store = store.put path text ∧ out'.store = store.put path text) ∧
    ∀ candidates start, List.Forall₂ (fun d d' => d' = d ∨ d' = .skip d.name .reserved)
      (Decision.classify candidates c.reserved start) (Decision.classify candidates r start) := by
  have hclassify : ∀ candidates start, List.Forall₂ (fun d d' => d' = d ∨ d' = .skip d.name .reserved)
      (Decision.classify candidates c.reserved start) (Decision.classify candidates r start) :=
    fun candidates start => Decision.classify_of_within h start candidates
  cases env with
  | some env =>
    exact ⟨fun name value => sets_of_withReserved run store h, sets_message_iff run store h,
      store_withReserved run store h, hclassify⟩
  | none =>
    rw [contribute_none, contribute_none]
    refine ⟨?_, ⟨?_, ?_⟩, .inl rfl, hclassify⟩
    · rintro _ _ ⟨-, hv⟩
      cases hv
    · rintro ⟨⟨_, -, hv⟩, -⟩
      cases hv
    · rintro ⟨⟨_, hm⟩, -⟩
      cases hm

/-- A message that had a file is its own variable once the name of the pointer variable is reserved. -/
theorem contribute_withReserved_pointer :
    let c : Contributor := ⟨some (.ofList [(messageName, "hello")]), .ofList ["HOME"], .default⟩
    let r := c.reserved.insert pointerName
    let run : Run := ⟨"pipeline", .rooted (some (.ofText "/jobs/4"))⟩
    let out := c.contribute run (some ∅) MemoryStore.empty
    let out' := (c.withReserved r).contribute run (some ∅) MemoryStore.empty
    c.reserved.Within r ∧ (∃ value, out'.Sets (some ∅) messageName value) ∧
      ∀ value, ¬ out.Sets (some ∅) messageName value := by
  intro c r run out out'
  have hwithin : c.reserved.Within r := fun name hn => by
    rw [ReservedNames.contains_insert, hn, Bool.or_true]
  have hfile : out.report.message = some (.file "/jobs/4/workspace/.ci_message.txt") := by decide
  have hmore := contribute_withReserved hwithin run (some ∅) MemoryStore.empty
  exact ⟨hwithin, hmore.2.1.2 ⟨⟨_, hfile⟩, by decide, by decide⟩⟩

end Contributor

end CiMessage
