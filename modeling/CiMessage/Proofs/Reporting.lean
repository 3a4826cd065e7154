import CiMessage.Proofs.Conservation
import CiMessage.Proofs.Decisions
import CiMessage.Proofs.Utf8

/-!
# What a report tells

`Accounts` is what the report of a contribution tells of it: which variables were set and which were left out, each list
without repetition and in its order, and each variable of the message in exactly one of them. A report accounts for its
contribution whatever the store of files does, and it is empty only when there was nothing to decide
(`contribute_accounts`).

The lists come from different places: the plain variables from the decisions, the last name from the delivery of the
message. What joins them is that a delivery sets a name that is not taken, also not by a plain variable
(`isTaken_of_delivered`); so no name is listed twice (`nodup_setNames`), and the names set afterwards are those set before
and those listed (`isSet_conclude_iff`).
-/

namespace CiMessage

/-- The names of the variables left out. -/
def Report.skippedNames (r : Report) : List String := r.skipped.map (·.1)

/-- The name by which a variable is listed once it is set: the message goes by what its delivery sets. -/
def listedName (delivery : Option Delivery) (name : String) : String :=
  if name = messageName then delivery.elim name Delivery.name else name

namespace Contributor

variable {c : Contributor} {env : Environment}

/-- What a report tells of a contribution that turned one environment into another. -/
structure Accounts (c : Contributor) (env env' : Environment) (r : Report) : Prop where
  /-- First the plain variables are listed, in the order of their bytes, and last what the delivery of the message set. -/
  injected : ∃ plain, r.injected = plain ++ (r.message.map Delivery.name).toList ∧
    plain.Pairwise (fun a b => Utf8.encode a < Utf8.encode b) ∧
    ∀ name, name ∈ plain ↔ (c.value? name).isSome = true ∧ c.reserved.contains name = false ∧
      env.isSet name = false ∧ name ≠ messageName
  /-- A message is delivered when it is neither reserved nor set. -/
  delivered : r.message.isSome = true ↔ (c.value? messageName).isSome = true ∧
    c.reserved.contains messageName = false ∧ env.isSet messageName = false
  /-- The variables left out are listed in the order of their bytes. -/
  ascending : r.skippedNames.Pairwise fun a b => Utf8.encode a < Utf8.encode b
  /-- A reserved variable is left out for that reason, and of the others one that is set. -/
  skipped : ∀ name reason, (name, reason) ∈ r.skipped ↔ (c.value? name).isSome = true ∧
    (c.reserved.contains name = true ∧ reason = .reserved ∨
      c.reserved.contains name = false ∧ env.isSet name = true ∧ reason = .alreadySet)
  nodup : r.injected.Nodup
  /-- What was set was not left out, not reserved and not set before. -/
  separate : ∀ name ∈ r.injected, name ∉ r.skippedNames ∧ c.reserved.contains name = false ∧ env.isSet name = false
  /-- The variables set afterwards are those set before and those listed. -/
  set : ∀ name, env'.isSet name = true ↔ env.isSet name = true ∨ name ∈ r.injected
  /-- Each variable of the message is in exactly one list. -/
  covered : ∀ name, (c.value? name).isSome = true → (listedName r.message name ∈ r.injected ↔ name ∉ r.skippedNames)
  unchanged : env' = env ↔ r.injected = []

/-! ## What is set -/

/-- The names of the message are in the order of their bytes. -/
theorem pairwise_encode_names (c : Contributor) : c.names.Pairwise fun a b => Utf8.encode a < Utf8.encode b :=
  c.pairwise_names.imp Utf8.encode_lt_of_compare

/-- After the plain variables those are set that were before, and the plain ones. -/
theorem isSet_withPlain {name : String} :
    (c.withPlain env).isSet name = true ↔ env.isSet name = true ∨ name ∈ c.plainNames env := by
  rw [mem_plainNames, Environment.isSet_eq_isSome, Environment.isSet_eq_isSome, get?_withPlain]
  cases env.get? name <;> cases c.reserved.contains name <;> by_cases hm : name = messageName <;> simp [hm]

variable {σ : Type} [FileStore σ] (run : Run) (store : σ)

/-- The variable of a message to deliver is not taken by the plain variables. -/
theorem isTaken_message {value : String} (hm : c.message? env = some value) :
    c.isTaken (c.withPlain env) messageName = false := by
  obtain ⟨hr, hnone, -⟩ := message?_eq_some_iff.1 hm
  exact isTaken_eq_false_iff.2 ⟨hr, by rw [get?_withPlain_message, hnone]⟩

/-- **A delivery sets a name that is not taken**, neither before nor by a plain variable. -/
theorem isTaken_of_delivered {d : Delivery} (h : (c.conclude run env store).value.2 = some d) :
    c.isTaken (c.withPlain env) d.name = false := by
  have hc := c.concludes run env store
  generalize c.conclude run env store = out at hc h
  cases hc with
  | silent => cases h
  | direct hm | guarded hm | failed hm =>
    cases h
    exact isTaken_message hm
  | filed _ _ ht =>
    cases h
    exact ht

/-- After the delivery those are set that were before, and the one that it sets. -/
theorem isSet_conclude {name : String} : (c.conclude run env store).value.1.isSet name = true ↔
    (c.withPlain env).isSet name = true ∨
      name ∈ ((c.conclude run env store).value.2.map Delivery.name).toList := by
  have hc := c.concludes run env store
  generalize c.conclude run env store = out at hc
  cases hc <;> simp [Delivery.name, or_comm]

variable (c env) in
/-- The names that a contribution sets, as its report lists them. -/
def setNames : List String := c.plainNames env ++ ((c.conclude run env store).value.2.map Delivery.name).toList

theorem mem_setNames {name : String} : name ∈ c.setNames env run store ↔
    name ∈ c.plainNames env ∨ ∃ d, (c.conclude run env store).value.2 = some d ∧ d.name = name := by
  rw [setNames, List.mem_append, Option.mem_toList, Option.map_eq_some_iff]

/-- What is set was free. -/
theorem isFree_of_mem_setNames {name : String} (h : name ∈ c.setNames env run store) :
    Decision.isFree c.reserved env name = true := by
  rw [Decision.isFree_iff]
  rcases (mem_setNames run store).1 h with hp | ⟨d, hd, rfl⟩
  · obtain ⟨-, hr, hs, -⟩ := mem_plainNames.1 hp
    exact ⟨hr, hs⟩
  · obtain ⟨hr, hnone⟩ := isTaken_eq_false_iff.1 (isTaken_of_delivered run store hd)
    rw [get?_withPlain, Option.or_eq_none_iff] at hnone
    exact ⟨hr, Environment.isSet_eq_false_iff.2 hnone.1⟩

/-- Nothing is set twice. -/
theorem nodup_setNames : (c.setNames env run store).Nodup := by
  have hplain : (c.plainNames env).Nodup := c.nodup_candidates.filter _
  refine List.nodup_append.2 ⟨hplain, ?_, ?_⟩
  · cases (c.conclude run env store).value.2 <;> simp
  · rintro name hp other hlast rfl
    obtain ⟨d, hd, rfl⟩ := Option.map_eq_some_iff.1 (Option.mem_toList.1 hlast)
    -- a name that is not taken is no plain one
    have htaken := (isTaken_eq_false_iff.1 (isTaken_of_delivered run store hd)).2
    rw [← Environment.isSet_eq_false_iff, Bool.eq_false_iff] at htaken
    exact htaken (isSet_withPlain.2 (.inr hp))

/-- The variables set afterwards are those set before and those that are set. -/
theorem isSet_conclude_iff {name : String} : (c.conclude run env store).value.1.isSet name = true ↔
    env.isSet name = true ∨ name ∈ c.setNames env run store := by
  rw [isSet_conclude, isSet_withPlain, setNames, List.mem_append, or_assoc]

/-- The environment is as it was when nothing is set. -/
theorem conclude_eq_self_iff : (c.conclude run env store).value.1 = env ↔ c.setNames env run store = [] := by
  constructor
  · intro h
    refine List.eq_nil_iff_forall_not_mem.2 fun name hn => ?_
    have hs := (isSet_conclude_iff run store).2 (.inr hn)
    rw [h, (Decision.isFree_iff.1 (isFree_of_mem_setNames run store hn)).2] at hs
    cases hs
  · intro h
    refine SortedMap.ext_get? fun name => ?_
    cases hv : env.get? name with
    | some value => exact (c.conclude_conserves run env store).kept name value hv
    | none =>
      rw [← Environment.isSet_eq_false_iff, Bool.eq_false_iff, Ne, isSet_conclude_iff, h]
      simp [Environment.isSet_eq_isSome, hv]

/-- A message is delivered when it is free. -/
theorem isSome_delivered_iff : (c.conclude run env store).value.2.isSome = true ↔
    (c.value? messageName).isSome = true ∧ Decision.isFree c.reserved env messageName = true := by
  have hsome : (c.conclude run env store).value.2.isSome = (c.message? env).isSome := by
    unfold conclude
    cases c.message? env <;> rfl
  rw [hsome, message?]
  cases Decision.isFree c.reserved env messageName <;> simp

/-- A variable of the message is listed as set when it is free. -/
theorem listedName_mem_setNames_iff {name : String} (hv : (c.value? name).isSome = true) :
    listedName (c.conclude run env store).value.2 name ∈ c.setNames env run store ↔
      Decision.isFree c.reserved env name = true := by
  unfold listedName
  by_cases hm : name = messageName
  · subst hm
    have hsome : (c.conclude run env store).value.2.isSome = true ↔ _ := isSome_delivered_iff run store
    rw [if_pos rfl]
    cases hd : (c.conclude run env store).value.2 with
    | none =>
      rw [hd] at hsome
      have hfree : ¬ Decision.isFree c.reserved env messageName = true := fun hf => nomatch hsome.2 ⟨hv, hf⟩
      simp [mem_setNames, mem_plainNames, hd, hfree]
    | some d =>
      rw [hd] at hsome
      exact iff_of_true ((mem_setNames run store).2 (.inr ⟨d, hd, rfl⟩)) (hsome.1 rfl).2
  · rw [if_neg hm]
    refine ⟨isFree_of_mem_setNames run store, fun hf => (mem_setNames run store).2 (.inl ?_)⟩
    obtain ⟨hr, hs⟩ := Decision.isFree_iff.1 hf
    exact mem_plainNames.2 ⟨hv, hr, hs, hm⟩

/-- The report of a contribution accounts for what its delivery comes to. -/
theorem accounts (c : Contributor) (env : Environment) (run : Run) (store : σ) :
    Accounts c env (c.conclude run env store).value.1 (c.contribute run (some env) store).report := by
  rw [contribute_by_names]
  change Accounts c env _ ⟨c.setNames env run store, _, _⟩
  exact {
    injected := ⟨c.plainNames env, rfl, c.pairwise_encode_names.filter _, fun _ => mem_plainNames⟩
    delivered := by rw [isSome_delivered_iff, Decision.isFree_iff]
    ascending := by
      rw [Report.skippedNames, map_leftOut]
      exact c.pairwise_encode_names.filter _
    skipped := fun _ _ => mem_leftOut
    nodup := nodup_setNames run store
    separate := fun name hn => by
      have hfree := isFree_of_mem_setNames run store hn
      rw [Report.skippedNames, mem_map_leftOut, hfree]
      exact ⟨by simp, Decision.isFree_iff.1 hfree⟩
    set := fun _ => isSet_conclude_iff run store
    covered := fun name hv => by
      rw [listedName_mem_setNames_iff run store hv, Report.skippedNames, mem_map_leftOut]
      simp [hv]
    unchanged := conclude_eq_self_iff run store }

/-- A report of variables lists something. -/
theorem Accounts.isEmpty_eq_false {env' : Environment} {r : Report} (h : Accounts c env env' r) {name : String}
    (hv : (c.value? name).isSome = true) : r.isEmpty = false := by
  rw [Bool.eq_false_iff]
  intro he
  simp only [Report.isEmpty, Bool.and_eq_true, List.isEmpty_iff] at he
  have hlisted := (h.covered name hv).2 (by simp [Report.skippedNames, he.1.2])
  simp [he.1.1] at hlisted

/-- A map of variables that is not empty has a variable. -/
theorem exists_value?_of_params {params : SortedMap String String} (hp : c.params = some params) (hne : params ≠ ∅) :
    ∃ name, (c.value? name).isSome = true := by
  obtain ⟨_ | ⟨⟨name, value⟩, rest⟩, ha⟩ := params
  · exact absurd rfl hne
  · exact ⟨name, mem_names_iff.1 (by simp [names, candidates, hp])⟩

/-- A report is empty when there was nothing to decide. -/
theorem isEmpty_report_iff (c : Contributor) (run : Run) (store : σ) (env : Option Environment) :
    (c.contribute run env store).report.isEmpty = true ↔ c.params = none ∨ env = none ∨ c.params = some ∅ := by
  rcases env with _ | env
  · rw [contribute_none]
    simp [Report.isEmpty, Report.empty]
  cases hp : c.params with
  | none =>
    unfold contribute
    simp [hp, Report.isEmpty, Report.empty]
  | some params =>
    by_cases hempty : params = ∅
    · subst hempty
      unfold contribute
      rw [hp]
      exact iff_of_true rfl (.inr (.inr rfl))
    · obtain ⟨name, hv⟩ := exists_value?_of_params hp hempty
      rw [(c.accounts env run store).isEmpty_eq_false hv]
      simp [hempty]

/-- **A report tells faithfully and completely** what a contribution did, and it tells nothing only of one for which there
was nothing to decide. -/
theorem contribute_accounts (c : Contributor) (run : Run) (store : σ) :
    (∀ env, ∃ env', (c.contribute run (some env) store).env = some env' ∧
      Accounts c env env' (c.contribute run (some env) store).report) ∧
    ∀ env, (c.contribute run env store).report.isEmpty = true ↔ c.params = none ∨ env = none ∨ c.params = some ∅ := by
  refine ⟨fun env => ⟨(c.conclude run env store).value.1, ?_, c.accounts env run store⟩, c.isEmpty_report_iff run store⟩
  rw [contribute_by_names]

end Contributor

end CiMessage
