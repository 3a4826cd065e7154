import CiMessage.Proofs.Conservation
import CiMessage.Proofs.MemoryStore
import Mathlib.Algebra.BigOperators.Group.Finset.Piecewise
import Mathlib.Algebra.Order.BigOperators.Group.Finset

/-!
# The pointer to a file stays good

Many contributors may contribute to one environment, one after the other, for runs with stores in memory that fail as they
like. A `Host` is such an environment with its stores, and `Host.run` what a sequence of actions makes of it.

* One action either leaves all files alone, or it is a contribution that finds the pointer variable unset, puts one file
  and sets the variable to its path (`step_cases`).
* So while the pointer variable is set, no file is written (`run_of_set`), and what is `Published` stays so
  (`published_run`).
* Hence at most one contribution of a sequence delivers to a file, and its file and pointer are good ever after
  (`pointer_stable`).
-/

namespace CiMessage

open Finset

/-- Does a delivery go to a file? -/
def Delivery.isFile : Delivery → Bool
  | file _ => true
  | _ => false

/-- A contribution with a store in memory leaves the store alone and delivers to no file, or it finds the pointer variable
unset, puts the message into one file and sets the variable to its path. -/
theorem Contributor.conclude_cases (c : Contributor) (run : Run) (env : Environment) (store : MemoryStore) :
    ((c.conclude run env store).store = store ∧ (c.conclude run env store).value.2.any Delivery.isFile = false) ∨
    ∃ value path, c.value? messageName = some value ∧ env.isSet pointerName = false ∧
      (c.conclude run env store).value.1.get? pointerName = some path ∧
      (c.conclude run env store).value.2 = some (.file path) ∧
      (c.conclude run env store).store = store.put path value := by
  have hkept := (c.conclude_conserves run env store).kept pointerName
  have h := c.concludes run env store
  generalize c.conclude run env store = out at h hkept ⊢
  cases h with
  | silent => exact .inl ⟨rfl, rfl⟩
  | direct => exact .inl ⟨rfl, rfl⟩
  | guarded => exact .inl ⟨rfl, rfl⟩
  | failed _ _ _ ho => exact .inl ⟨Run.store_of_redirect_error ho, rfl⟩
  | @filed value path _ _ hm _ ht ho =>
    have hset : env.isSet pointerName = false := (isTaken_pointer_eq_false_iff.1 ht).2.1
    exact .inr ⟨value, path, (message?_eq_some_iff.1 hm).2.2, hset, by simp, rfl, Run.store_of_redirect_ok ho⟩

/-- An environment, and the stores of the runs that it is the environment of. -/
structure Host (ι : Type) where
  env : Environment
  stores : ι → MemoryStore

namespace Host

variable {ι : Type} [DecidableEq ι]

/-- What can happen to a host. -/
inductive Action (ι : Type) where
  /-- A contribution to a run with one of the stores. -/
  | contribute (c : Contributor) (run : Run) (i : ι)
  /-- From now on a store fails and hides its files like this. -/
  | disturb (i : ι) (failure : Option IoError.Kind) (hidden : Bool)

/-- The contribution to a run with one of the stores. -/
def contribution (h : Host ι) (c : Contributor) (run : Run) (i : ι) : Contribution MemoryStore :=
  c.contribute run (some h.env) (h.stores i)

/-- The host after an action. -/
def step (h : Host ι) : Action ι → Host ι
  | .contribute c run i =>
    ⟨(h.contribution c run i).env.getD h.env, Function.update h.stores i (h.contribution c run i).store⟩
  | .disturb i failure hidden => { h with stores := Function.update h.stores i { h.stores i with failure, hidden } }

/-- The delivery that an action reports. -/
def delivery? (h : Host ι) : Action ι → Option Delivery
  | .contribute c run i => (h.contribution c run i).report.message
  | .disturb .. => none

/-- The host after a sequence of actions. -/
def run (h : Host ι) (as : List (Action ι)) : Host ι := as.foldl step h

/-- How many actions of a sequence deliver to a file. -/
def filed (h : Host ι) : List (Action ι) → Nat
  | [] => 0
  | a :: as => ((h.delivery? a).any Delivery.isFile).toNat + (h.step a).filed as

/-- Two hosts have the same files, written equally often. -/
def SameFiles (h h' : Host ι) : Prop :=
  ∀ i, (h'.stores i).files = (h.stores i).files ∧ (h'.stores i).writes = (h.stores i).writes

/-- The pointer variable names a file with this content. -/
def Published (h : Host ι) (i : ι) (path value : String) : Prop :=
  h.env.get? pointerName = some path ∧ (h.stores i).contents path = some value

/-! ## One action -/

/-- The environment after a contribution conserves the one before it. -/
theorem kept_step (h : Host ι) (a : Action ι) {name value : String} (hv : h.env.get? name = some value) :
    (h.step a).env.get? name = some value := by
  cases a with
  | contribute c run i =>
    rw [step, contribution]
    exact Contribution.get?_getD (c.kept_contribute run (h.stores i) hv) h.env
  | disturb => exact hv

/-- **One action** leaves all files alone, or it publishes one file where the pointer variable was not set. -/
theorem step_cases (h : Host ι) (a : Action ι) :
    (SameFiles h (h.step a) ∧ (h.delivery? a).any Delivery.isFile = false) ∨
    ∃ c run i value path, a = .contribute c run i ∧ c.value? messageName = some value ∧
      h.env.isSet pointerName = false ∧ (h.step a).env.get? pointerName = some path ∧
      h.delivery? a = some (.file path) ∧ (h.step a).stores = Function.update h.stores i ((h.stores i).put path value) := by
  cases a with
  | disturb i failure hidden =>
    refine .inl ⟨fun j => ?_, rfl⟩
    by_cases hj : j = i
    · subst hj
      simp [step]
    · simp [step, hj]
  | contribute c run i =>
    simp only [step, delivery?, contribution, Contributor.contribute_eq, Option.getD_some]
    rcases c.conclude_cases run h.env (h.stores i) with ⟨hs, hf⟩ | ⟨value, path, hv, hset, hp, hd, hs⟩
    · refine .inl ⟨fun j => ?_, hf⟩
      rw [hs, Function.update_eq_self]
      exact ⟨rfl, rfl⟩
    · exact .inr ⟨c, run, i, value, path, rfl, hv, hset, hp, hd, by rw [hs]⟩

/-- A contribution that delivers to a file publishes the message there. -/
theorem published_of_delivery {h : Host ι} {c : Contributor} {run : Run} {i : ι} {path : String}
    (hd : h.delivery? (.contribute c run i) = some (.file path)) :
    ∃ value, c.value? messageName = some value ∧ (h.step (.contribute c run i)).Published i path value := by
  rcases h.step_cases (.contribute c run i) with ⟨_, hf⟩ | ⟨c', run', i', value, path', ha, hv, _, hp, hd', hs⟩
  · rw [hd] at hf
    cases hf
  · cases ha
    cases hd.symm.trans hd'
    exact ⟨value, hv, hp, by simp [hs]⟩

/-- While the pointer variable is set, an action leaves all files alone. -/
theorem step_of_set {h : Host ι} (hset : h.env.isSet pointerName = true) (a : Action ι) :
    SameFiles h (h.step a) ∧ (h.delivery? a).any Delivery.isFile = false ∧ (h.step a).env.isSet pointerName = true := by
  rcases h.step_cases a with ⟨hs, hf⟩ | ⟨_, _, _, _, _, _, _, hunset, _⟩
  · obtain ⟨path, hp⟩ := Option.isSome_iff_exists.1 hset
    exact ⟨hs, hf, Environment.isSet_of_get? (h.kept_step a hp)⟩
  · rw [hset] at hunset
    cases hunset

/-- No action takes back a write. -/
theorem writes_step_le (h : Host ι) (a : Action ι) (i : ι) : (h.stores i).writes ≤ ((h.step a).stores i).writes := by
  rcases h.step_cases a with ⟨hs, _⟩ | ⟨_, _, j, _, _, _, _, _, _, _, hs⟩
  · exact (hs i).2.ge
  · rw [hs]
    by_cases hi : i = j
    · subst hi
      simp
    · simp [hi]

/-- An action adds as many writes as it delivers to files. -/
theorem sum_writes_step_le (h : Host ι) (a : Action ι) (s : Finset ι) :
    ∑ i ∈ s, ((h.step a).stores i).writes ≤
      ∑ i ∈ s, (h.stores i).writes + ((h.delivery? a).any Delivery.isFile).toNat := by
  rcases h.step_cases a with ⟨hs, hf⟩ | ⟨_, _, j, value, path, _, _, _, _, hd, hs⟩
  · rw [hf, sum_congr rfl fun i _ => (hs i).2]
    exact Nat.le_refl _
  · have hone : ∀ i ∈ s, ((h.step a).stores i).writes ≤ (h.stores i).writes + if i = j then 1 else 0 := by
      intro i _
      rw [hs]
      by_cases hi : i = j
      · subst hi
        simp
      · simp [hi]
    calc ∑ i ∈ s, ((h.step a).stores i).writes
        ≤ ∑ i ∈ s, (h.stores i).writes + ∑ i ∈ s, (if i = j then 1 else 0) := by
          rw [← sum_add_distrib]
          exact sum_le_sum hone
      _ ≤ ∑ i ∈ s, (h.stores i).writes + ((h.delivery? a).any Delivery.isFile).toNat := by
          rw [hd, sum_ite_eq']
          refine Nat.add_le_add_left ?_ _
          split <;> simp [Delivery.isFile]

/-! ## Sequences of actions -/

theorem run_append (h : Host ι) (as bs : List (Action ι)) : h.run (as ++ bs) = (h.run as).run bs := List.foldl_append

/-- **While the pointer variable is set**, no file is written. -/
theorem run_of_set {h : Host ι} (hset : h.env.isSet pointerName = true) (as : List (Action ι)) :
    SameFiles h (h.run as) ∧ h.filed as = 0 := by
  induction as generalizing h with
  | nil => exact ⟨fun _ => ⟨rfl, rfl⟩, rfl⟩
  | cons a rest ih =>
    obtain ⟨hs, hf, hset'⟩ := step_of_set hset a
    obtain ⟨hsame, hfiled⟩ := ih hset'
    exact ⟨fun i => ⟨(hsame i).1.trans (hs i).1, (hsame i).2.trans (hs i).2⟩, by simp [filed, hf, hfiled]⟩

/-- **What is published stays published.** -/
theorem published_run {h : Host ι} {i : ι} {path value : String} (hp : h.Published i path value)
    (as : List (Action ι)) : (h.run as).Published i path value := by
  induction as generalizing h with
  | nil => exact hp
  | cons a rest ih =>
    have hset : h.env.isSet pointerName = true := Environment.isSet_of_get? hp.1
    refine ih ⟨h.kept_step a hp.1, ?_⟩
    rw [MemoryStore.contents, ((step_of_set hset a).1 i).1]
    exact hp.2

/-- At most one action of a sequence delivers to a file: it sets the pointer variable. -/
theorem filed_le_one (h : Host ι) (as : List (Action ι)) : h.filed as ≤ 1 := by
  induction as generalizing h with
  | nil => exact Nat.zero_le 1
  | cons a rest ih =>
    rcases h.step_cases a with ⟨_, hf⟩ | ⟨_, _, _, _, path, _, _, _, hp, hd, _⟩
    · simpa [filed, hf] using ih (h.step a)
    · have hset : (h.step a).env.isSet pointerName = true := by rw [Environment.isSet_eq_isSome, hp]; rfl
      simp [filed, hd, Delivery.isFile, (run_of_set hset rest).2]

theorem writes_run_le (h : Host ι) (as : List (Action ι)) (i : ι) :
    (h.stores i).writes ≤ ((h.run as).stores i).writes := by
  induction as generalizing h with
  | nil => exact Nat.le_refl _
  | cons a rest ih => exact (h.writes_step_le a i).trans (ih (h.step a))

theorem sum_writes_run_le (h : Host ι) (as : List (Action ι)) (s : Finset ι) :
    ∑ i ∈ s, ((h.run as).stores i).writes ≤ ∑ i ∈ s, (h.stores i).writes + h.filed as := by
  induction as generalizing h with
  | nil => exact Nat.le_refl _
  | cons a rest ih =>
    have hstep := h.sum_writes_step_le a s
    have hrest := ih (h.step a)
    simp only [filed]
    simp only [run, List.foldl_cons] at hrest ⊢
    omega

/-- **The pointer is stable.** Of a sequence of contributions to one environment at most one delivers to a file, at most
one file is written in all stores together, and none if the pointer variable was set at the start. From then on the
pointer variable names the file, and the file holds the message. -/
theorem pointer_stable (h : Host ι) (as : List (Action ι)) :
    h.filed as ≤ 1 ∧ (∀ i, (h.stores i).writes ≤ ((h.run as).stores i).writes) ∧
    (∀ s : Finset ι, ∑ i ∈ s, ((h.run as).stores i).writes ≤ ∑ i ∈ s, (h.stores i).writes + 1) ∧
    (h.env.isSet pointerName = true → h.filed as = 0 ∧ SameFiles h (h.run as)) ∧
    ∀ before c run i path after, as = before ++ .contribute c run i :: after →
      (h.run before).delivery? (.contribute c run i) = some (.file path) →
      ∃ value, c.value? messageName = some value ∧ (h.run as).Published i path value := by
  refine ⟨h.filed_le_one as, h.writes_run_le as, fun s => ?_, fun hset => ?_, ?_⟩
  · exact (h.sum_writes_run_le as s).trans (Nat.add_le_add_left (h.filed_le_one as) _)
  · exact ⟨(run_of_set hset as).2, (run_of_set hset as).1⟩
  · rintro before c run i path after rfl hd
    obtain ⟨value, hv, hp⟩ := published_of_delivery hd
    refine ⟨value, hv, ?_⟩
    rw [run_append]
    exact published_run hp after

/-- A second message for the same workspace does not come into the file of the first. -/
theorem pointer_stable_under_second_message :
    let first : Contributor := ⟨some (.ofList [(messageName, "first")]), .empty, .default⟩
    let second : Contributor := ⟨some (.ofList [(messageName, "second")]), .empty, .default⟩
    let build : Run := ⟨"build", .direct (some (.ofText "/ws"))⟩
    let h : Host Nat := ⟨∅, fun _ => .empty⟩
    ∃ value, first.value? messageName = some value ∧
      (h.run [.contribute first build 0, .contribute second build 0]).Published 0 "/ws/.ci_message.txt" value := by
  intro first second build h
  have hd : h.delivery? (.contribute first build 0) = some (.file "/ws/.ci_message.txt") := by decide +kernel
  exact (pointer_stable h _).2.2.2.2 [] first build 0 _ [.contribute second build 0] rfl hd

end Host

end CiMessage
