import CiMessage.Proofs.Contribution

/-!
# Decisions by names

What is listed and told of the decisions about the variables of a message depends on the names of the variables, never on
their values. `Decision.skipReason?` and `Decision.announcement` say by name what a decision lists and tells.

Of the names, those that are plain are injected at once (`plainNames`), and others are left out for a reason (`leftOut`).
Both are in ascending order of the names (`pairwise_names`). `contribute_by_names` tells a contribution by these lists.
-/

namespace CiMessage

namespace Decision

variable (reserved : ReservedNames) (env : Environment)

/-- Why a variable of this name is left out, if it is. -/
def skipReason? (name : String) : Option SkipReason :=
  if reserved.contains name then some .reserved else if env.isSet name then some .alreadySet else none

/-- The event of the decision about a variable of this name. -/
def announcement (name : String) : Event :=
  match skipReason? reserved env name with
  | some reason => .skipped name reason
  | none => if name = messageName then .redirectPlanned name messageFileName else .injected name

variable {reserved env}

/-- A name is free when it is neither reserved nor set. -/
theorem isFree_iff {name : String} :
    isFree reserved env name = true ↔ reserved.contains name = false ∧ env.isSet name = false := by
  simp [isFree]

/-- A variable is injected when it is plain. -/
theorem injectedName?_decide (c : Candidate) : injectedName? (decide reserved env c) =
    if isPlain reserved env c.1 then some c.1 else none := by
  unfold decide isPlain isFree
  cases reserved.contains c.1 <;> cases env.isSet c.1 <;> by_cases hm : c.1 = messageName <;>
    simp [hm, injectedName?, redirectMessage]

/-- A variable is skipped when there is a reason for it. -/
theorem skipped?_decide (c : Candidate) :
    skipped? (decide reserved env c) = (skipReason? reserved env c.1).map (c.1, ·) := by
  unfold decide skipReason?
  cases reserved.contains c.1 <;> cases env.isSet c.1 <;> by_cases hm : c.1 = messageName <;>
    simp [hm, skipped?, redirectMessage]

/-- The event of a decision is announced by the name. -/
theorem ofDecision_decide (c : Candidate) :
    Event.ofDecision (decide reserved env c) = announcement reserved env c.1 := by
  unfold decide announcement skipReason?
  cases reserved.contains c.1 <;> cases env.isSet c.1 <;> by_cases hm : c.1 = messageName <;>
    simp [hm, Event.ofDecision, redirectMessage]

end Decision

namespace Contributor

variable (c : Contributor) (env : Environment)

/-- The names of the variables of the message, in the order in which they are decided about. -/
def names : List String := c.candidates.map (·.1)

/-- The names are in ascending order. -/
theorem pairwise_names : c.names.Pairwise fun a b => compare a b = .lt := by
  unfold names candidates
  cases c.params with
  | none => exact .nil
  | some params => exact List.pairwise_map.2 params.ascending

variable {c} in
/-- A name is one of the message when the message has a value for it. -/
theorem mem_names_iff {name : String} : name ∈ c.names ↔ (c.value? name).isSome = true := by
  unfold names candidates value?
  cases c.params with
  | none => simp
  | some params => exact SortedMap.mem_keys_iff

/-- The plain variables of the message. -/
def plainNames : List String := c.names.filter (Decision.isPlain c.reserved env)

/-- The variables of the message that are left out, with the reasons. -/
def leftOut : List (String × SkipReason) :=
  c.names.filterMap fun name => (Decision.skipReason? c.reserved env name).map (name, ·)

section Members

variable {c env} {name : String}

theorem mem_plainNames : name ∈ c.plainNames env ↔ (c.value? name).isSome = true ∧
    c.reserved.contains name = false ∧ env.isSet name = false ∧ name ≠ messageName := by
  rw [plainNames, List.mem_filter, mem_names_iff, Decision.isPlain, Decision.isFree]
  simp [and_assoc]

theorem mem_leftOut {reason : SkipReason} : (name, reason) ∈ c.leftOut env ↔
    (c.value? name).isSome = true ∧ (c.reserved.contains name = true ∧ reason = .reserved ∨
      c.reserved.contains name = false ∧ env.isSet name = true ∧ reason = .alreadySet) := by
  rw [← mem_names_iff, leftOut, List.mem_filterMap]
  unfold Decision.skipReason?
  cases hr : c.reserved.contains name <;> cases hs : env.isSet name <;> grind

/-- The names of what is left out are those of the message that are not free. -/
theorem map_leftOut : (c.leftOut env).map (·.1) = c.names.filter fun name => !Decision.isFree c.reserved env name := by
  rw [leftOut, List.map_filterMap, ← List.filterMap_eq_filter]
  congr 1
  funext name
  cases hr : c.reserved.contains name <;> cases hs : env.isSet name <;>
    simp [Decision.skipReason?, Decision.isFree, Option.guard, hr, hs]

theorem mem_map_leftOut : name ∈ (c.leftOut env).map (·.1) ↔
    (c.value? name).isSome = true ∧ Decision.isFree c.reserved env name = false := by
  rw [map_leftOut, List.mem_filter, mem_names_iff, Bool.not_eq_true']

end Members

/-- The plain variables are injected at once. -/
theorem injected_decisions : (c.decisions env).filterMap Decision.injectedName? = c.plainNames env := by
  rw [decisions, Decision.classify, List.filterMap_map, plainNames, names, List.filter_map, ← List.filterMap_eq_filter,
    List.map_filterMap]
  congr 1
  funext v
  rw [Function.comp, Decision.injectedName?_decide]
  by_cases hp : Decision.isPlain c.reserved env v.1 <;> simp [hp, Option.guard]

theorem skipped_decisions : (c.decisions env).filterMap Decision.skipped? = c.leftOut env := by
  rw [decisions, Decision.classify, List.filterMap_map, leftOut, names, List.filterMap_map]
  exact congrArg (List.filterMap · c.candidates) (funext Decision.skipped?_decide)

theorem events_decisions :
    (c.decisions env).map Event.ofDecision = c.names.map (Decision.announcement c.reserved env) := by
  rw [decisions, Decision.classify, List.map_map, names, List.map_map]
  exact congrArg (List.map · c.candidates) (funext Decision.ofDecision_decide)

/-- **A contribution by names:** what is decided about the names, and then the delivery of the message. -/
theorem contribute_by_names {σ : Type} [FileStore σ] (run : Run) (store : σ) :
    c.contribute run (some env) store =
      ⟨some (c.conclude run env store).value.1, (c.conclude run env store).store,
        ⟨c.plainNames env ++ ((c.conclude run env store).value.2.map Delivery.name).toList, c.leftOut env,
          (c.conclude run env store).value.2⟩,
        (c.names.map (Decision.announcement c.reserved env) ++ (c.conclude run env store).events).map
          (⟨·, some run.id⟩)⟩ := by
  rw [contribute_eq, injected_decisions, skipped_decisions, events_decisions]

end Contributor

end CiMessage
