import CiMessage.Proofs.Contribution
import CiMessage.Store.Memory

/-!
# The order of the variables does not matter

A contribution decides about all variables first, in ascending order and against the environment at the start. A live pass
takes them in any order, decides about each one in the environment as the earlier ones left it, and carries that out at
once; only the message waits (`Contributor.contributeLive`).

* As names are distinct, no earlier variable changes a later decision, so a live pass carries out the decisions that the
  environment at the start gives (`foldl_take`).
* What it comes to does not depend on the order (`env_livePass`, `message_livePass`), and what it lists depends on it by a
  permutation only.
* Hence both contribute the same (`contributeLive_agrees`).
-/

namespace CiMessage

/-- A pass over variables: the environment as it is now, what was done and told so far, and the message that waits. -/
structure LivePass where
  env : Environment
  injected : List String
  skipped : List (String × SkipReason)
  events : List Event
  message : Option Message

namespace LivePass

/-- A pass before the first variable. -/
def start (env : Environment) : LivePass := ⟨env, [], [], [], none⟩

/-- Carries out a decision. -/
def act (p : LivePass) (d : Decision) : LivePass :=
  let told := { p with events := p.events ++ [Event.ofDecision d] }
  match d with
  | .skip name reason => { told with skipped := p.skipped ++ [(name, reason)] }
  | .inject name value => { told with env := p.env.set name value, injected := p.injected ++ [name] }
  | .redirect name value pointer file => { told with message := some ⟨name, value, pointer, file⟩ }

/-- Decides about a variable in the environment as it is now, and carries that out. -/
def take (reserved : ReservedNames) (p : LivePass) (c : Candidate) : LivePass :=
  p.act (Decision.decide reserved p.env c)

end LivePass

/-- Contributes the variables of a list in its order, by a live pass. -/
def Contributor.contributeLive {σ : Type} [FileStore σ] (c : Contributor) (l : List Candidate) (run : Run)
    (env : Environment) (store : σ) : Contribution σ :=
  let p := l.foldl (LivePass.take c.reserved) (.start env)
  match p.message with
  | none => ⟨some p.env, store, ⟨p.injected, p.skipped, none⟩, p.events.map (⟨·, some run.id⟩)⟩
  | some m =>
    let out := c.deliver run p.env store m
    ⟨some out.value.1, out.store, ⟨p.injected ++ [deliveredName m out.value.2], p.skipped, some out.value.2⟩,
      (p.events ++ out.events).map (⟨·, some run.id⟩)⟩

namespace LivePass

/-! ## Carrying out decisions -/

theorem act_eq (p : LivePass) (d : Decision) : p.act d =
    ⟨d.apply p.env, p.injected ++ d.injectedName?.toList, p.skipped ++ d.skipped?.toList, p.events ++ [Event.ofDecision d],
      d.message?.or p.message⟩ := by
  cases d <;> simp [act, Decision.apply, Decision.injectedName?, Decision.skipped?, Decision.message?]

/-- Decisions are carried out one after the other; of messages the last one waits. -/
theorem foldl_act (ds : List Decision) (p : LivePass) : ds.foldl act p =
    ⟨ds.foldl Decision.apply p.env, p.injected ++ ds.filterMap Decision.injectedName?,
      p.skipped ++ ds.filterMap Decision.skipped?, p.events ++ ds.map Event.ofDecision,
      (ds.reverse.findSome? Decision.message?).or p.message⟩ := by
  induction ds generalizing p with
  | nil => simp
  | cons d rest ih =>
    rw [List.foldl_cons, ih, act_eq]
    cases d <;>
      simp [Decision.injectedName?, Decision.skipped?, Decision.message?, List.filterMap_cons, List.findSome?_append]

/-- A decision asks only whether its own variable is set. -/
theorem decide_congr {reserved : ReservedNames} {env env' : Environment} {c : Candidate}
    (h : env'.isSet c.1 = env.isSet c.1) : Decision.decide reserved env' c = Decision.decide reserved env c := by
  rw [Decision.decide, Decision.decide, h]

/-- **A live pass** over distinct names carries out the decisions that the environment at the start gives. -/
theorem foldl_take {reserved : ReservedNames} {env : Environment} {l : List Candidate} (hl : (l.map (·.1)).Nodup)
    (p : LivePass) (hp : ∀ c ∈ l, p.env.isSet c.1 = env.isSet c.1) :
    l.foldl (take reserved) p = (Decision.classify l reserved env).foldl act p := by
  induction l generalizing p with
  | nil => rfl
  | cons c rest ih =>
    obtain ⟨hc, hrest⟩ := List.nodup_cons.1 hl
    have hd : Decision.decide reserved p.env c = Decision.decide reserved env c := decide_congr (hp c List.mem_cons_self)
    rw [List.foldl_cons, Decision.classify, List.map_cons, List.foldl_cons, ← Decision.classify, take, hd]
    refine ih hrest _ fun c' hc' => ?_
    -- the names of the rest are other names than the one that may just have been set
    have hne : c'.1 ≠ c.1 := fun e => hc (List.mem_map.2 ⟨c', hc', e⟩)
    rw [act_eq, Decision.apply_decide, ← hp c' (List.mem_cons_of_mem _ hc')]
    split
    · simp [hne]
    · rfl

end LivePass

namespace Contributor

/-! ## Any order -/

section Order

variable {c : Contributor} {l : List Candidate}

theorem nodup_of_perm (hl : l.Perm c.candidates) : (l.map (·.1)).Nodup :=
  (hl.map _).nodup_iff.2 c.nodup_candidates

theorem lookup_of_perm (hl : l.Perm c.candidates) (name : String) : SortedMap.lookup name l = c.value? name := by
  rw [SortedMap.lookup_perm hl (nodup_of_perm hl), lookup_candidates]

/-- A live pass over the variables comes to decisions against the environment at the start. -/
theorem livePass_eq (hl : l.Perm c.candidates) (env : Environment) :
    l.foldl (LivePass.take c.reserved) (.start env) =
      (Decision.classify l c.reserved env).foldl LivePass.act (.start env) :=
  LivePass.foldl_take (nodup_of_perm hl) _ fun _ _ => rfl

/-- **The environment** after a live pass is the one with the plain variables. -/
theorem env_livePass (hl : l.Perm c.candidates) (env : Environment) :
    (l.foldl (LivePass.take c.reserved) (.start env)).env = c.withPlain env := by
  rw [livePass_eq hl, LivePass.foldl_act]
  refine SortedMap.ext_get? fun name => ?_
  rw [withPlain, decisions, Decision.get?_foldl_apply c.nodup_candidates]
  show ((Decision.classify l c.reserved env).foldl Decision.apply env).get? name = _
  rw [Decision.get?_foldl_apply (nodup_of_perm hl), lookup_of_perm hl, lookup_candidates]

/-- **The message** that waits after a live pass is the one to deliver. -/
theorem message_livePass (hl : l.Perm c.candidates) (env : Environment) :
    (l.foldl (LivePass.take c.reserved) (.start env)).message = (c.message? env).map .ofText := by
  rw [livePass_eq hl, LivePass.foldl_act]
  show ((Decision.classify l c.reserved env).reverse.findSome? Decision.message?).or none = _
  rw [Option.or_none, Decision.classify, ← List.map_reverse, ← Decision.classify, Decision.findSome?_message?,
    lookup_of_perm (l.reverse_perm.trans hl), message?]
  split <;> rfl

/-- The decisions about the variables in another order. -/
theorem classify_perm (hl : l.Perm c.candidates) (env : Environment) :
    (Decision.classify l c.reserved env).Perm (c.decisions env) := hl.map _

/-- **The lists** of a live pass are those of the decisions, permuted. -/
theorem lists_livePass (hl : l.Perm c.candidates) (env : Environment) :
    let p := l.foldl (LivePass.take c.reserved) (.start env)
    p.injected.Perm ((c.decisions env).filterMap Decision.injectedName?) ∧
    p.skipped.Perm ((c.decisions env).filterMap Decision.skipped?) ∧
    p.events.Perm ((c.decisions env).map Event.ofDecision) := by
  have hperm := classify_perm hl env
  rw [livePass_eq hl, LivePass.foldl_act]
  exact ⟨hperm.filterMap _, hperm.filterMap _, hperm.map _⟩

end Order

variable {σ : Type} [FileStore σ]

/-- **A live pass contributes the same**, in whatever order it takes the variables: the environment, the store and the
delivery are equal, and the lists are permuted, but for the delivered name that stands last in both. -/
theorem contributeLive_agrees {c : Contributor} {l : List Candidate} (hl : l.Perm c.candidates) (run : Run)
    (env : Environment) (store : σ) :
    let live := c.contributeLive l run env store
    let out := c.contribute run (some env) store
    live.env = out.env ∧ live.store = out.store ∧ live.report.message = out.report.message ∧
    (∃ plain plain', plain.Perm plain' ∧
      live.report.injected = plain ++ (out.report.message.map Delivery.name).toList ∧
      out.report.injected = plain' ++ (out.report.message.map Delivery.name).toList) ∧
    live.report.skipped.Perm out.report.skipped ∧ live.records.Perm out.records := by
  have henv := env_livePass hl env
  have hmessage := message_livePass hl env
  obtain ⟨hinjected, hskipped, hevents⟩ := lists_livePass hl env
  simp only [contribute_eq, contributeLive, conclude, hmessage, henv]
  cases c.message? env with
  | none =>
    refine ⟨rfl, rfl, rfl, ⟨_, _, hinjected, by simp, rfl⟩, hskipped, ?_⟩
    simpa using hevents.map _
  | some value =>
    refine ⟨rfl, rfl, rfl, ⟨_, _, hinjected, ?_, rfl⟩, hskipped, (hevents.append_right _).map _⟩
    cases (c.deliver run (c.withPlain env) store (.ofText value)).value.2 <;> rfl

/-- Backwards, the variable that claims the pointer comes before the message, and the message falls back all the same. -/
theorem contributeLive_agrees_backwards :
    let c : Contributor := ⟨some (.ofList [(messageName, "hello"), (pointerName, "/from/message")]), .empty, .default⟩
    let build : Run := ⟨"build", .direct (some (.ofText "/ws"))⟩
    let live := c.contributeLive c.candidates.reverse build ∅ MemoryStore.empty
    let out := c.contribute build (some ∅) MemoryStore.empty
    c.candidates.reverse.Perm c.candidates ∧ live.env = out.env ∧ live.store = out.store ∧
      live.report.message = out.report.message := by
  intro c build live out
  have hl : c.candidates.reverse.Perm c.candidates := List.reverse_perm _
  obtain ⟨henv, hstore, hmessage, _⟩ := contributeLive_agrees hl build ∅ MemoryStore.empty
  exact ⟨hl, henv, hstore, hmessage⟩

end Contributor

end CiMessage
