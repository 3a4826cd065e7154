import CiMessage.Proofs.Contribution
import CiMessage.Proofs.MemoryStore

/-!
# What a delivery depends on

Of the contributor a delivery needs the configuration, and of the environment only whether the pointer variable is taken.
`dispatch` is the delivery as a function of these, and `Contributor.conclude_eq` tells every delivery by it: what is set
afterwards is one variable, named and valued by how the message was delivered. A message is delivered to a file exactly
when its file is written (`Contributor.report_file_iff`), whatever the store of files is.

In memory more is known beforehand: the way of a delivery (`route`) does not depend on the text, nor does what is told of
it (`tellings`), but for the length of the text and its digest (`dispatch_eq`).
-/

namespace CiMessage

/-- The value of the variable that a delivery of this text sets. -/
def Delivery.value (text : String) : Delivery → String
  | file path => path
  | _ => text

variable {σ : Type} [FileStore σ]

/-- Delivers a text, as far as the store and the run are concerned; `taken` says whether the pointer variable is. -/
def dispatch (config : Config) (run : Run) (store : σ) (taken : Bool) (text : String) : Outcome σ Delivery :=
  if !config.redirectEnabled then ⟨.direct, store, []⟩
  else if taken then
    ⟨.fallback (.pointerUnavailable pointerName), store, [.pointerUnavailable pointerName, .ofFallback messageName text]⟩
  else
    let out := run.redirectMessage config store text
    match out.value with
    | .ok p => ⟨.file p.path, out.store, out.events⟩
    | .error cause => ⟨.fallback cause, out.store, out.events ++ [.ofFallback messageName text]⟩

namespace Contributor

variable (c : Contributor) (run : Run) (env : Environment) (store : σ)

/-- A delivery into any environment is dispatched, and then sets one variable. -/
theorem deliver_eq (text : String) : c.deliver run env store (.ofText text) =
    let out := dispatch c.config run store (c.isTaken env pointerName) text
    ⟨(env.set out.value.name (out.value.value text), out.value), out.store, out.events⟩ := by
  unfold deliver dispatch Message.ofText
  by_cases hr : (!c.config.redirectEnabled) = true
  · simp only [if_pos hr]
    rfl
  · by_cases ht : c.isTaken env pointerName = true
    · simp only [if_neg hr, if_pos ht]
      rfl
    · simp only [if_neg hr, if_neg ht, Run.redirectMessage]
      cases hout : (run.redirect c.config store pointerName messageFileName text).value with
      | error cause => rfl
      | ok p =>
        simp only [name_of_redirect hout]
        rfl

/-- **What a contribution comes to** after the plain variables: the message is dispatched, and sets one variable. -/
theorem conclude_eq : c.conclude run env store =
    match c.message? env with
    | none => ⟨(c.withPlain env, none), store, []⟩
    | some text =>
      let out := dispatch c.config run store (c.isTaken (c.withPlain env) pointerName) text
      ⟨((c.withPlain env).set out.value.name (out.value.value text), some out.value), out.store, out.events⟩ := by
  unfold conclude
  cases c.message? env with
  | none => rfl
  | some text => simp only [deliver_eq]

end Contributor

/-! ## Messages in files -/

/-- A redirection succeeds when there is a workspace and the file is written there. -/
theorem Run.redirect_eq_ok_iff {run : Run} {config : Config} {store store' : σ} {pointer file value path : String} :
    (∃ events, run.redirect config store pointer file value = ⟨.ok ⟨pointer, path⟩, store', events⟩) ↔
    ∃ dir found told, run.workspace config.workspaceSubdir = (.ok dir, found) ∧
      FileStore.writeText store dir file value = ⟨.ok path, store', told⟩ := by
  unfold redirect
  rcases run.workspace config.workspaceSubdir with ⟨cause | dir, found⟩
  · simp
  · simp only [writeValue]
    rcases hw : FileStore.writeText store dir file value with ⟨e | p, s, told⟩
    · simp [hw]
    · simp [hw, and_comm]

/-- **A contribution delivers to a file** when there is a message that may go to one, the pointer variable is not taken,
and the file is written. -/
theorem Contributor.report_file_iff {c : Contributor} {run : Run} {env : Environment} {store store' : σ}
    {path : String} :
    ((c.contribute run (some env) store).report.message = some (.file path) ∧
      (c.contribute run (some env) store).store = store') ↔
    ∃ text dir found told, c.message? env = some text ∧ c.config.redirectEnabled = true ∧
      c.isTaken (c.withPlain env) pointerName = false ∧
      run.workspace c.config.workspaceSubdir = (.ok dir, found) ∧
      FileStore.writeText store dir messageFileName text = ⟨.ok path, store', told⟩ := by
  rw [contribute_eq]
  constructor
  · rintro ⟨hm, hs⟩
    have h := c.concludes run env store
    generalize c.conclude run env store = out at h hm hs
    cases h with
    | filed ht hr hf ho =>
      cases hm
      cases hs
      obtain ⟨dir, found, told, hw, hwrite⟩ := Run.redirect_eq_ok_iff.1 ⟨_, ho⟩
      exact ⟨_, dir, found, told, ht, hr, hf, hw, hwrite⟩
    | silent | direct | guarded | failed => cases hm
  · rintro ⟨text, dir, found, told, ht, hr, hf, hw, hwrite⟩
    have hok : ∃ events, run.redirect c.config store pointerName messageFileName text =
        ⟨.ok ⟨pointerName, path⟩, store', events⟩ := Run.redirect_eq_ok_iff.2 ⟨dir, found, told, hw, hwrite⟩
    obtain ⟨events, ho⟩ := hok
    simp [conclude_eq, ht, dispatch, hr, hf, Run.redirectMessage, ho]

/-! ## In memory -/

section Memory

/-- How a message is delivered with a store in memory. -/
def route (config : Config) (run : Run) (store : MemoryStore) (taken : Bool) : Delivery :=
  if !config.redirectEnabled then .direct
  else if taken then .fallback (.pointerUnavailable pointerName)
  else
    match run.destination config.workspaceSubdir store messageFileName with
    | .error cause => .fallback cause
    | .ok path => .file path

/-- What is told of the delivery of a text with a store in memory. -/
def tellings (config : Config) (run : Run) (store : MemoryStore) (taken : Bool) (text : String) : List Event :=
  if !config.redirectEnabled then []
  else if taken then [.pointerUnavailable pointerName, .ofFallback messageName text]
  else
    (run.workspace config.workspaceSubdir).2 ++
      match run.destination config.workspaceSubdir store messageFileName with
      | .error cause => [.ofFailure cause text, .ofFallback messageName text]
      | .ok path => .ofWritten path text :: if config.verifyAfterWrite then
          [if store.hidden then .missingAfterWrite path else .verified path text.utf8ByteSize] else []

/-- The store after the delivery of a text. -/
def Delivery.keep (store : MemoryStore) (text : String) : Delivery → MemoryStore
  | file path => store.put path text
  | _ => store

/-- **A delivery in memory** takes its route. -/
theorem dispatch_eq (config : Config) (run : Run) (store : MemoryStore) (taken : Bool) (text : String) :
    dispatch config run store taken text =
      ⟨route config run store taken, (route config run store taken).keep store text,
        tellings config run store taken text⟩ := by
  unfold dispatch route tellings
  cases config.redirectEnabled with
  | false => rfl
  | true =>
    cases taken with
    | true => rfl
    | false =>
      simp only [Run.redirectMessage, Run.redirect_eq]
      cases run.destination config.workspaceSubdir store messageFileName with
      | error cause => simp [Delivery.keep]
      | ok path => simp [Delivery.keep]

/-- **What a contribution comes to in memory.** -/
theorem Contributor.conclude_memory (c : Contributor) (run : Run) (env : Environment) (store : MemoryStore) :
    c.conclude run env store =
      match c.message? env with
      | none => ⟨(c.withPlain env, none), store, []⟩
      | some text =>
        let way := route c.config run store (c.isTaken (c.withPlain env) pointerName)
        ⟨((c.withPlain env).set way.name (way.value text), some way), way.keep store text,
          tellings c.config run store (c.isTaken (c.withPlain env) pointerName) text⟩ := by
  rw [conclude_eq]
  cases c.message? env with
  | none => rfl
  | some text => simp only [dispatch_eq]

end Memory

end CiMessage
