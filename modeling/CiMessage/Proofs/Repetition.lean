import CiMessage.Proofs.Dispatch
import CiMessage.Proofs.Reporting

/-!
# Contributing again

The same contributor may contribute to one environment again and again, for runs with stores that behave as they like.

* Once each variable of the message is reserved or set (`Contributor.Settled`), a contribution is idle: it changes nothing,
  and skips all variables (`idle_of_settled`).
* A first contribution settles the environment unless it delivers to a file (`settled_of_not_filed`). If it does, the
  message itself is left (`awaits_of_filed`): a second contribution finds the pointer variable set, falls back to the
  variable of the message (`completes_of_awaits`), and that settles the environment.

So the environment stays the same from the second contribution on, or from the first one (`contribute_settles`).
-/

namespace CiMessage

namespace Contributor

variable {c : Contributor} {env : Environment} {σ : Type} [FileStore σ]

/-! ## Settled environments -/

/-- Nothing of the message is left to contribute: each of its variables is reserved or set. -/
def Settled (c : Contributor) (env : Environment) : Prop :=
  ∀ name, (c.value? name).isSome = true → Decision.isFree c.reserved env name = false

/-- Of the message at most itself is left to contribute. -/
def SettledButMessage (c : Contributor) (env : Environment) : Prop :=
  ∀ name, (c.value? name).isSome = true → name ≠ messageName → Decision.isFree c.reserved env name = false

/-- A contribution that contributes nothing: environment and store stay as they were, and all variables of the message are
skipped. -/
structure Idle (c : Contributor) (env : Environment) (store : σ) (out : Contribution σ) : Prop where
  env : out.env = some env
  store : out.store = store
  injected : out.report.injected = []
  message : out.report.message = none
  skipped : out.report.skippedNames = c.names

/-- A contribution that contributes the message as its variable, since the pointer variable is taken, and nothing else. -/
structure Completes (env : Environment) (store : σ) (text : String) (out : Contribution σ) : Prop where
  env : out.env = some (env.set messageName text)
  store : out.store = store
  injected : out.report.injected = [messageName]
  message : out.report.message = some (.fallback (.pointerUnavailable pointerName))

/-- Where only the message may be left, there are no plain variables. -/
theorem plainNames_of_settledButMessage (h : c.SettledButMessage env) : c.plainNames env = [] := by
  refine List.eq_nil_iff_forall_not_mem.2 fun name hn => ?_
  obtain ⟨hv, hr, hs, hm⟩ := mem_plainNames.1 hn
  have hfree : Decision.isFree c.reserved env name = true := Decision.isFree_iff.2 ⟨hr, hs⟩
  rw [h name hv hm] at hfree
  cases hfree

/-- Where only the message may be left, the plain variables change nothing. -/
theorem withPlain_of_settledButMessage (h : c.SettledButMessage env) : c.withPlain env = env := by
  refine SortedMap.ext_get? fun name => ?_
  rw [get?_withPlain]
  cases hg : env.get? name with
  | some value => rfl
  | none =>
    rw [Option.none_or]
    split
    · rfl
    · rename_i hn
      rw [Bool.or_eq_true, not_or, Bool.not_eq_true, beq_iff_eq] at hn
      have hfree : Decision.isFree c.reserved env name = true :=
        Decision.isFree_iff.2 ⟨hn.1, Environment.isSet_eq_false_iff.2 hg⟩
      cases hv : c.value? name with
      | none => rfl
      | some value =>
        rw [h name (by rw [hv]; rfl) hn.2] at hfree
        cases hfree

/-- **A settled environment stays as it is.** -/
theorem idle_of_settled (h : c.Settled env) (run : Run) (store : σ) :
    c.Idle env store (c.contribute run (some env) store) := by
  have hbut : c.SettledButMessage env := fun name hv _ => h name hv
  have hmessage : c.message? env = none := by
    rw [message?]
    cases hv : c.value? messageName with
    | none => exact ite_self none
    | some value => rw [h messageName (by rw [hv]; rfl)]; rfl
  have hskipped : (c.leftOut env).map (·.1) = c.names := by
    rw [map_leftOut]
    refine List.filter_eq_self.2 fun name hn => ?_
    rw [h name (mem_names_iff.1 hn)]
    rfl
  rw [contribute_by_names, conclude_eq, hmessage, plainNames_of_settledButMessage hbut,
    withPlain_of_settledButMessage hbut]
  exact ⟨rfl, rfl, rfl, rfl, hskipped⟩

/-! ## The first contribution -/

theorem isFree_eq_false_of_isSet {name : String} (h : env.isSet name = true) :
    Decision.isFree c.reserved env name = false := by
  rw [Decision.isFree, h, Bool.not_true, Bool.and_false]

/-- After the plain variables at most the message is left. -/
theorem settledButMessage_withPlain (c : Contributor) (env : Environment) : c.SettledButMessage (c.withPlain env) := by
  intro name hv hm
  rw [Bool.eq_false_iff]
  intro hfree
  obtain ⟨hr, hunset⟩ := Decision.isFree_iff.1 hfree
  rw [Bool.eq_false_iff, Ne, isSet_withPlain, not_or, Bool.not_eq_true] at hunset
  exact hunset.2 (mem_plainNames.2 ⟨hv, hr, hunset.1, hm⟩)

theorem SettledButMessage.set (h : c.SettledButMessage env) (name value : String) :
    c.SettledButMessage (env.set name value) := by
  intro x hv hm
  have hfree := h x hv hm
  rw [Decision.isFree, Bool.and_eq_false_iff, Bool.not_eq_false'] at hfree ⊢
  refine hfree.imp_right fun hset => ?_
  rw [Bool.not_eq_false'] at hset
  rw [Environment.isSet_set, hset, Bool.or_true]
  rfl

theorem settled_of_settledButMessage (h : c.SettledButMessage env)
    (hm : (c.value? messageName).isSome = true → Decision.isFree c.reserved env messageName = false) :
    c.Settled env := by
  intro name hv
  by_cases hn : name = messageName
  · subst hn
    exact hm hv
  · exact h name hv hn

/-- The message as a variable settles the environment. -/
theorem SettledButMessage.settled_set (h : c.SettledButMessage env) (value : String) :
    c.Settled (env.set messageName value) := by
  refine settled_of_settledButMessage (h.set messageName value) fun _ => isFree_eq_false_of_isSet ?_
  rw [Environment.isSet_set, decide_eq_true rfl, Bool.true_or]

/-- **A first contribution** settles the environment, unless it delivers to a file. -/
theorem settled_of_not_filed {run : Run} {store : σ}
    (h : ∀ path, (c.conclude run env store).value.2 ≠ some (.file path)) :
    c.Settled (c.conclude run env store).value.1 := by
  have hend := c.concludes run env store
  generalize c.conclude run env store = out at h hend ⊢
  cases hend with
  | silent hm =>
    -- no message was left before the plain variables, which do not set it
    refine settled_of_settledButMessage (settledButMessage_withPlain c env) fun hv => ?_
    rw [message?] at hm
    cases hfree : Decision.isFree c.reserved env messageName with
    | true =>
      rw [hfree, if_pos rfl] at hm
      rw [hm] at hv
      cases hv
    | false =>
      rwa [Decision.isFree, Environment.isSet_eq_isSome, get?_withPlain_message, ← Environment.isSet_eq_isSome]
  | direct | guarded | failed => exact (settledButMessage_withPlain c env).settled_set _
  | filed => exact absurd rfl (h _)

/-! ## The contribution after a file -/

/-- Only the message is left to contribute, and it cannot go to a file since the pointer variable is set. -/
structure Awaits (c : Contributor) (env : Environment) (text : String) : Prop where
  others : c.SettledButMessage env
  message : c.message? env = some text
  pointer : env.isSet pointerName = true
  enabled : c.config.redirectEnabled = true

/-- **After a delivery to a file** only the message is left. -/
theorem awaits_of_filed {run : Run} {store : σ} {path : String}
    (h : (c.conclude run env store).value.2 = some (.file path)) :
    ∃ text, c.Awaits (c.conclude run env store).value.1 text := by
  have hend := c.concludes run env store
  generalize c.conclude run env store = out at h hend ⊢
  cases hend with
  | @filed text path _ _ hm hr =>
    obtain ⟨hreserved, hunset, hvalue⟩ := message?_eq_some_iff.1 hm
    refine ⟨text, (settledButMessage_withPlain c env).set pointerName path, ?_, ?_, hr⟩
    · refine message?_eq_some_iff.2 ⟨hreserved, ?_, hvalue⟩
      rw [Environment.get?_set, if_neg pointerName_ne_messageName.symm, get?_withPlain_message, hunset]
    · rw [Environment.isSet_set, decide_eq_true rfl, Bool.true_or]
  | silent | direct | guarded | failed => cases h

/-- What is left is contributed as the variable of the message. -/
theorem completes_of_awaits {text : String} (h : c.Awaits env text) (run : Run) (store : σ) :
    Completes env store text (c.contribute run (some env) store) := by
  have htaken : c.isTaken env pointerName = true := by
    rw [isTaken, h.pointer, Bool.or_true]
  -- the pointer variable is taken, so the run and the store are not asked
  rw [contribute_by_names, conclude_eq, h.message, plainNames_of_settledButMessage h.others,
    withPlain_of_settledButMessage h.others]
  simp only [dispatch, h.enabled, htaken]
  exact ⟨rfl, rfl, rfl, rfl⟩

/-! ## Sequences of contributions -/

/-- The environment after contributions to some runs, one after the other. -/
def after (c : Contributor) (env : Environment) (passes : List (Run × σ)) : Environment :=
  passes.foldl (fun env pass => (c.contribute pass.1 (some env) pass.2).env.getD env) env

theorem after_append (c : Contributor) (env : Environment) (passes passes' : List (Run × σ)) :
    c.after env (passes ++ passes') = c.after (c.after env passes) passes' := List.foldl_append

theorem after_singleton (c : Contributor) (env : Environment) (pass : Run × σ) :
    c.after env [pass] = (c.conclude pass.1 env pass.2).value.1 := by
  rw [after, List.foldl_cons, contribute_eq]
  rfl

/-- **A settled environment stays as it is** through any contributions. -/
theorem after_of_settled (h : c.Settled env) (passes : List (Run × σ)) : c.after env passes = env := by
  induction passes with
  | nil => rfl
  | cons pass rest ih =>
    have hidle := (idle_of_settled h pass.1 pass.2).env
    rw [after, List.foldl_cons, hidle]
    exact ih

theorem after_of_awaits {text : String} (h : c.Awaits env text) (pass : Run × σ) :
    c.after env [pass] = env.set messageName text := by
  have hcompletes := (completes_of_awaits h pass.1 pass.2).env
  rw [after, List.foldl_cons, hcompletes]
  rfl

/-- What a first contribution leaves: the message if it delivers to a file, and else nothing. -/
theorem after_first (c : Contributor) (env : Environment) (pass : Run × σ) :
    let out := c.contribute pass.1 (some env) pass.2
    (∃ path text, out.report.message = some (.file path) ∧ c.Awaits (c.after env [pass]) text) ∨
    (∀ path, out.report.message ≠ some (.file path)) ∧ c.Settled (c.after env [pass]) := by
  simp only [after_singleton, contribute_eq]
  by_cases hfile : ∃ path, (c.conclude pass.1 env pass.2).value.2 = some (.file path)
  · obtain ⟨path, hpath⟩ := hfile
    obtain ⟨text, h⟩ := awaits_of_filed hpath
    exact .inl ⟨path, text, hpath, h⟩
  · have hno : ∀ path, (c.conclude pass.1 env pass.2).value.2 ≠ some (.file path) := fun path hpath =>
      hfile ⟨path, hpath⟩
    exact .inr ⟨hno, settled_of_not_filed hno⟩

/-- **A second contribution** is idle, or it completes one that delivered to a file. Either way the environment is settled
then. -/
theorem after_second (c : Contributor) (env : Environment) (first second : Run × σ) :
    let env₁ := c.after env [first]
    let env₂ := c.after env [first, second]
    let out₁ := c.contribute first.1 (some env) first.2
    let out₂ := c.contribute second.1 (some env₁) second.2
    c.Settled env₂ ∧
    ((∀ path, out₁.report.message ≠ some (.file path)) → env₂ = env₁ ∧ c.Idle env₁ second.2 out₂) ∧
    ∀ path, out₁.report.message = some (.file path) → ∃ text, c.value? messageName = some text ∧
      env₁.get? messageName = none ∧ env₂ = env₁.set messageName text ∧ Completes env₁ second.2 text out₂ := by
  intro env₁ env₂ out₁ out₂
  have hsplit : env₂ = c.after env₁ [second] := c.after_append env [first] [second]
  rcases c.after_first env first with ⟨path, text, hpath, h⟩ | ⟨hno, h⟩
  · have henv₂ : env₂ = env₁.set messageName text := by rw [hsplit, after_of_awaits h]
    obtain ⟨-, hunset, hvalue⟩ := message?_eq_some_iff.1 h.message
    refine ⟨?_, fun hno => absurd hpath (hno path), fun _ _ => ⟨text, hvalue, hunset, henv₂, ?_⟩⟩
    · rw [henv₂]
      exact h.others.settled_set text
    · exact completes_of_awaits h second.1 second.2
  · have henv₂ : env₂ = env₁ := by rw [hsplit, after_of_settled h]
    refine ⟨?_, fun _ => ⟨henv₂, idle_of_settled h second.1 second.2⟩, fun path hpath => absurd hpath (hno path)⟩
    rw [henv₂]
    exact h

/-- **Contributing again** comes to rest after the first contribution, or after the second one if the first delivered to a
file. -/
theorem contribute_settles (c : Contributor) (env : Environment) (first second : Run × σ) (rest : List (Run × σ)) :
    let env₁ := c.after env [first]
    let env₂ := c.after env [first, second]
    let out₁ := c.contribute first.1 (some env) first.2
    let out₂ := c.contribute second.1 (some env₁) second.2
    c.after env (first :: second :: rest) = env₂ ∧
    ((∀ path, out₁.report.message ≠ some (.file path)) → env₂ = env₁ ∧ c.Idle env₁ second.2 out₂) ∧
    (∀ path, out₁.report.message = some (.file path) → ∃ text, c.value? messageName = some text ∧
      env₁.get? messageName = none ∧ env₂ = env₁.set messageName text ∧ Completes env₁ second.2 text out₂) ∧
    ∀ before pass later, rest = before ++ pass :: later →
      c.Idle env₂ pass.2 (c.contribute pass.1 (some (c.after env (first :: second :: before))) pass.2) := by
  intro env₁ env₂ out₁ out₂
  obtain ⟨hsettled, hidle, hcompletes⟩ := c.after_second env first second
  have hrest : ∀ passes, c.after env (first :: second :: passes) = env₂ := by
    intro passes
    calc c.after env (first :: second :: passes)
        = c.after env₂ passes := c.after_append env [first, second] passes
      _ = env₂ := after_of_settled hsettled passes
  refine ⟨hrest rest, hidle, hcompletes, ?_⟩
  rintro before pass later -
  rw [hrest before]
  exact idle_of_settled hsettled pass.1 pass.2

/-- After a delivery to a file the message comes into the environment once more, as a variable, and then nothing does. -/
theorem contribute_settles_after_file :
    let c : Contributor := ⟨some (.ofList [(messageName, "hello"), ("CI_TOPIC", "builds")]), .empty, .default⟩
    let pass : Run × MemoryStore := (⟨"build", .direct (some (.ofText "/ws"))⟩, .empty)
    let failing : Run × MemoryStore := (⟨"pipeline", .rooted none⟩, MemoryStore.empty.failWrites .interrupted)
    let env₁ := c.after ∅ [pass]
    env₁.get? pointerName = some "/ws/.ci_message.txt" ∧ env₁.get? messageName = none ∧
      c.after ∅ [pass, pass, failing] = env₁.set messageName "hello" ∧
      c.Idle (c.after ∅ [pass, pass]) failing.2 (c.contribute failing.1 (some (c.after ∅ [pass, pass])) failing.2) := by
  intro c pass failing env₁
  have hfile : (c.contribute pass.1 (some ∅) pass.2).report.message = some (.file "/ws/.ci_message.txt") := by
    decide +kernel
  have hvalue : c.value? messageName = some "hello" := by decide
  obtain ⟨hrest, -, hcompletes, hidle⟩ := contribute_settles c ∅ pass pass [failing]
  obtain ⟨text, htext, hunset, henv₂, -⟩ := hcompletes _ hfile
  cases htext.symm.trans hvalue
  exact ⟨by decide +kernel, hunset, hrest.trans henv₂, hidle [] failing [] rfl⟩

end Contributor

end CiMessage
