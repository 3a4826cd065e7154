import CiMessage.Contribution

/-!
# What a contribution comes to

A contribution is told in two parts, both functions of the environment at the start.

* The plain variables: those that are neither reserved nor set nor the message. `Contributor.withPlain` is the
  environment with them, and `get?_withPlain` gives its variables: one that was set keeps its value, and a plain one has
  its own.
* The message: `Contributor.message?` is the text to deliver, and `Contributor.conclude` delivers it into that
  environment. `Concludes` lists the five ways in which this ends.

`Contributor.contribute_eq` puts both together. All of it holds for every store of files.
-/

namespace CiMessage

/-- The message with this text. -/
def Message.ofText (value : String) : Message := ⟨messageName, value, pointerName, messageFileName⟩

/-- The variable that a delivery sets. -/
def Delivery.name : Delivery → String
  | file _ => pointerName
  | _ => messageName

/-- The value of a variable after a contribution. -/
def Contribution.get? {σ : Type} (out : Contribution σ) (name : String) : Option String := out.env.bind (·.get? name)

/-! ## Decisions about distinct names -/

namespace Decision

variable (reserved : ReservedNames) (env : Environment)

/-- May a variable of this name be set? -/
def isFree (name : String) : Bool := !reserved.contains name && !env.isSet name

/-- Is a variable of this name set at once? -/
def isPlain (name : String) : Bool := isFree reserved env name && name != messageName

variable {reserved env}

/-- A decision changes the environment when it is about a plain variable. -/
theorem apply_decide (acc : Environment) (c : Candidate) :
    apply acc (decide reserved env c) = if isPlain reserved env c.1 then acc.set c.1 c.2 else acc := by
  unfold decide isPlain isFree
  cases reserved.contains c.1 <;> cases env.isSet c.1 <;> by_cases hm : c.1 = messageName <;>
    simp [hm, apply, redirectMessage]

/-- A decision holds a message back when it is about the message and that is free. -/
theorem message?_decide (c : Candidate) : message? (decide reserved env c) =
    if c.1 = messageName ∧ isFree reserved env messageName then some (.ofText c.2) else none := by
  by_cases hm : c.1 = messageName
  · rw [decide, isFree, hm]
    cases reserved.contains messageName <;> cases env.isSet messageName <;> simp [message?, redirectMessage, Message.ofText]
  · rw [decide, if_neg hm]
    cases reserved.contains c.1 <;> cases env.isSet c.1 <;> simp [hm, message?]

/-- **The environment after decisions about distinct names:** a plain variable has its value, all else is as it was. -/
theorem get?_foldl_apply {l : List Candidate} (hl : (l.map (·.1)).Nodup) (acc : Environment) (name : String) :
    ((classify l reserved env).foldl apply acc).get? name =
      (if isPlain reserved env name then SortedMap.lookup name l else none).or (acc.get? name) := by
  induction l generalizing acc with
  | nil => simp [classify, SortedMap.lookup]
  | cons c rest ih =>
    obtain ⟨hc, hrest⟩ := List.nodup_cons.1 hl
    rw [classify, List.map_cons, List.foldl_cons, ← classify, ih hrest, apply_decide, SortedMap.lookup]
    by_cases hn : name = c.1
    · -- the rest has no variable of this name, so the head decides
      have hnone : SortedMap.lookup name rest = none := SortedMap.lookup_eq_none_of_not_mem (hn ▸ hc)
      subst hn
      by_cases hp : isPlain reserved env c.1 <;> simp [hp, hnone]
    · by_cases hp : isPlain reserved env c.1 <;> simp [hp, hn]

/-- The message that decisions hold back is the first variable of its name, if that is free. -/
theorem findSome?_message? (l : List Candidate) : (classify l reserved env).findSome? message? =
    if isFree reserved env messageName then (SortedMap.lookup messageName l).map .ofText else none := by
  induction l with
  | nil => simp [classify, SortedMap.lookup]
  | cons c rest ih =>
    rw [classify, List.map_cons, List.findSome?_cons, ← classify, ih, message?_decide, SortedMap.lookup]
    by_cases hn : messageName = c.1
    · by_cases hm : isFree reserved env messageName <;> simp [hm, ← hn]
    · simp [hn, Ne.symm hn]

end Decision

namespace Contributor

/-! ## The plain variables -/

section Plain

/-- The variables of the message, in the order in which they are decided about. -/
def candidates (c : Contributor) : List Candidate := c.params.elim [] (·.entries)

/-- The value that the message has for a variable. -/
def value? (c : Contributor) (name : String) : Option String := c.params.bind (·.get? name)

/-- The decisions about the variables of the message. -/
def decisions (c : Contributor) (env : Environment) : List Decision := Decision.classify c.candidates c.reserved env

/-- The environment with the plain variables. -/
def withPlain (c : Contributor) (env : Environment) : Environment := (c.decisions env).foldl Decision.apply env

theorem nodup_candidates (c : Contributor) : (c.candidates.map (·.1)).Nodup := by
  unfold candidates
  cases c.params with
  | none => exact List.nodup_nil
  | some params => exact params.nodup_keys

theorem lookup_candidates (c : Contributor) (name : String) : SortedMap.lookup name c.candidates = c.value? name := by
  unfold candidates value?
  cases c.params <;> rfl

/-- **The plain variables.** A variable that was set keeps its value; one that is free has its own, the message
excepted. -/
theorem get?_withPlain (c : Contributor) (env : Environment) (name : String) : (c.withPlain env).get? name =
    (env.get? name).or (if c.reserved.contains name || name == messageName then none else c.value? name) := by
  rw [withPlain, decisions, Decision.get?_foldl_apply c.nodup_candidates, lookup_candidates, Decision.isPlain,
    Decision.isFree, Environment.isSet_eq_isSome]
  cases env.get? name <;> cases c.reserved.contains name <;> by_cases hm : name = messageName <;> simp [hm]

/-- The message is not a plain variable. -/
theorem get?_withPlain_message (c : Contributor) (env : Environment) :
    (c.withPlain env).get? messageName = env.get? messageName := by
  simp [get?_withPlain]

/-- A name that is not taken is neither reserved nor set. -/
theorem isTaken_eq_false_iff {c : Contributor} {env : Environment} {name : String} :
    c.isTaken env name = false ↔ c.reserved.contains name = false ∧ env.get? name = none := by
  rw [isTaken, Bool.or_eq_false_iff, Environment.isSet_eq_false_iff]

/-- A name is taken after the plain variables when it was before, or when it is the name of one. -/
theorem isTaken_withPlain (c : Contributor) (env : Environment) {name : String} (hn : name ≠ messageName) :
    c.isTaken (c.withPlain env) name = (c.isTaken env name || (c.value? name).isSome) := by
  rw [isTaken, isTaken, Environment.isSet_eq_isSome, Environment.isSet_eq_isSome, get?_withPlain]
  cases env.get? name <;> cases c.reserved.contains name <;> simp [hn]

theorem pointerName_ne_messageName : pointerName ≠ messageName := by decide

/-- The pointer variable is not taken after the plain variables when it was nowhere in the way. -/
theorem isTaken_pointer_eq_false_iff {c : Contributor} {env : Environment} :
    c.isTaken (c.withPlain env) pointerName = false ↔
      c.reserved.contains pointerName = false ∧ env.isSet pointerName = false ∧ c.value? pointerName = none := by
  rw [isTaken_withPlain _ _ pointerName_ne_messageName, isTaken, Bool.or_eq_false_iff, Bool.or_eq_false_iff,
    Option.isSome_eq_false_iff, Option.isNone_iff_eq_none, and_assoc]

end Plain

/-! ## The message -/

section Ending

variable {σ : Type} [FileStore σ]

/-- The text to deliver: that of the message, if the message is free. -/
def message? (c : Contributor) (env : Environment) : Option String :=
  if Decision.isFree c.reserved env messageName then c.value? messageName else none

/-- Delivers the message, if there is one, into the environment with the plain variables. -/
def conclude (c : Contributor) (run : Run) (env : Environment) (store : σ) :
    Outcome σ (Environment × Option Delivery) :=
  match c.message? env with
  | none => ⟨(c.withPlain env, none), store, []⟩
  | some value =>
    let out := c.deliver run (c.withPlain env) store (.ofText value)
    ⟨(out.value.1, some out.value.2), out.store, out.events⟩

/-- There is a message to deliver when the variable of the message is neither reserved nor set. -/
theorem message?_eq_some_iff {c : Contributor} {env : Environment} {value : String} : c.message? env = some value ↔
    c.reserved.contains messageName = false ∧ env.get? messageName = none ∧ c.value? messageName = some value := by
  rw [message?, Decision.isFree, Environment.isSet_eq_isSome]
  cases c.reserved.contains messageName <;> cases env.get? messageName <;> simp

theorem findSome?_decisions (c : Contributor) (env : Environment) :
    (c.decisions env).findSome? Decision.message? = (c.message? env).map .ofText := by
  rw [decisions, Decision.findSome?_message?, lookup_candidates, message?]
  split <;> rfl

/-- **A contribution** is its decisions, and then the delivery of its message. -/
theorem contribute_eq (c : Contributor) (run : Run) (env : Environment) (store : σ) :
    c.contribute run (some env) store =
      ⟨some (c.conclude run env store).value.1, (c.conclude run env store).store,
        ⟨(c.decisions env).filterMap Decision.injectedName? ++
            ((c.conclude run env store).value.2.map Delivery.name).toList,
          (c.decisions env).filterMap Decision.skipped?, (c.conclude run env store).value.2⟩,
        ((c.decisions env).map Event.ofDecision ++ (c.conclude run env store).events).map (⟨·, some run.id⟩)⟩ := by
  have hfind := c.findSome?_decisions env
  unfold contribute conclude
  cases hp : c.params with
  | none =>
    have hmessage : c.message? env = none := by simp [message?, value?, hp]
    simp [hmessage, withPlain, decisions, candidates, hp, Decision.classify, Report.empty]
  | some params =>
    have hcandidates : c.candidates = params.entries := by simp [candidates, hp]
    rw [decisions, hcandidates] at hfind
    simp only [contributeParams, hfind, withPlain, decisions, hcandidates]
    cases c.message? env with
    | none => simp
    | some value =>
      simp only [Option.map_some, Option.toList_some]
      cases (c.deliver run _ store (.ofText value)).value.2 <;> rfl

/-- Without an environment nothing is done. -/
theorem contribute_none (c : Contributor) (run : Run) (store : σ) :
    c.contribute run none store = ⟨none, store, .empty, []⟩ := by
  unfold contribute
  cases c.params <;> rfl

/-- How the delivery of a message can end. -/
inductive Concludes (c : Contributor) (run : Run) (env : Environment) (store : σ) :
    Outcome σ (Environment × Option Delivery) → Prop
  /-- There is no message. -/
  | silent (hm : c.message? env = none) : Concludes c run env store ⟨(c.withPlain env, none), store, []⟩
  /-- Messages are not to go to files. -/
  | direct {value : String} (hm : c.message? env = some value) (hr : c.config.redirectEnabled = false) :
      Concludes c run env store ⟨((c.withPlain env).set messageName value, some .direct), store, []⟩
  /-- The pointer variable is taken, so no file is tried. -/
  | guarded {value : String} (hm : c.message? env = some value) (hr : c.config.redirectEnabled = true)
      (ht : c.isTaken (c.withPlain env) pointerName = true) :
      Concludes c run env store ⟨((c.withPlain env).set messageName value,
        some (.fallback (.pointerUnavailable pointerName))), store,
        [.pointerUnavailable pointerName, .ofFallback messageName value]⟩
  /-- The file was tried in vain. -/
  | failed {value : String} {cause : RedirectError} {store' : σ} {events : List Event}
      (hm : c.message? env = some value) (hr : c.config.redirectEnabled = true)
      (ht : c.isTaken (c.withPlain env) pointerName = false)
      (ho : run.redirectMessage c.config store value = ⟨.error cause, store', events⟩) :
      Concludes c run env store ⟨((c.withPlain env).set messageName value, some (.fallback cause)), store',
        events ++ [.ofFallback messageName value]⟩
  /-- The message is in its file. -/
  | filed {value path : String} {store' : σ} {events : List Event} (hm : c.message? env = some value)
      (hr : c.config.redirectEnabled = true) (ht : c.isTaken (c.withPlain env) pointerName = false)
      (ho : run.redirectMessage c.config store value = ⟨.ok ⟨pointerName, path⟩, store', events⟩) :
      Concludes c run env store ⟨((c.withPlain env).set pointerName path, some (.file path)), store', events⟩

/-- The pointer of a redirection has the name that was asked for. -/
theorem name_of_redirect {run : Run} {config : Config} {store : σ} {pointer file value : String} {p : Pointer}
    (h : (run.redirect config store pointer file value).value = .ok p) : p.name = pointer := by
  unfold Run.redirect at h
  split at h
  · cases h
  · dsimp only [Run.writeValue] at h
    split at h
    · cases h
    · cases h; rfl

/-- **Every delivery ends in one of these ways.** -/
theorem concludes (c : Contributor) (run : Run) (env : Environment) (store : σ) :
    Concludes c run env store (c.conclude run env store) := by
  unfold conclude
  cases hm : c.message? env with
  | none => exact .silent hm
  | some value =>
    dsimp only [deliver, Message.ofText]
    by_cases hr : c.config.redirectEnabled = true
    · rw [hr]
      cases ht : c.isTaken (c.withPlain env) pointerName with
      | true => exact .guarded hm hr ht
      | false =>
        rcases ho : run.redirect c.config store pointerName messageFileName value with ⟨result, store', events⟩
        cases result with
        | error cause => exact .failed hm hr ht ho
        | ok p =>
          have hn : p.name = pointerName := name_of_redirect (by rw [ho])
          obtain ⟨name, path⟩ := p
          cases hn
          exact .filed hm hr ht ho
    · rw [Bool.not_eq_true] at hr
      rw [hr]
      exact .direct hm hr

end Ending

end Contributor

end CiMessage
