import CiMessage.Proofs.Contribution

/-!
# A contribution conserves the environment

`Conserves` is what a contribution may do to an environment: it overwrites nothing, sets no reserved name, gives the
variables of the message their own values, and sets nothing else but the pointer to the file it reports. Setting one more
variable that is neither reserved nor set keeps this (`Conserves.set`), the environment with the plain variables has it
(`conserves_withPlain`), and so has the environment after a contribution, whatever the store of files does
(`contribute_conserves`).
-/

namespace CiMessage

/-- A value that a variable has after a contribution, it has in the environment that there is then. -/
theorem Contribution.get?_getD {σ : Type} {out : Contribution σ} {name value : String} (h : out.get? name = some value)
    (env : Environment) : (out.env.getD env).get? name = some value := by
  obtain ⟨env', henv, hv⟩ := Option.bind_eq_some_iff.1 h
  rw [henv]
  exact hv

namespace Contributor

variable {c : Contributor} {env env' : Environment} {delivery : Option Delivery}

/-- What a contribution may do to an environment. -/
structure Conserves (c : Contributor) (env env' : Environment) (delivery : Option Delivery) : Prop where
  /-- A variable that was set keeps its value. -/
  kept : ∀ name value, env.get? name = some value → env'.get? name = some value
  /-- No reserved name is set. -/
  unreserved : ∀ name, c.reserved.contains name = true → env.get? name = none → env'.get? name = none
  /-- A variable that is neither reserved nor set gets its own value; of the message this is not said. -/
  verbatim : ∀ name value, c.value? name = some value → name ≠ messageName → c.reserved.contains name = false →
    env.get? name = none → env'.get? name = some value
  /-- What is new is a variable of the message with its own value, or the pointer to the file. -/
  founded : ∀ name value, env.get? name = none → env'.get? name = some value →
    c.value? name = some value ∨ name = pointerName ∧ delivery = some (.file value)

/-- A variable that is neither reserved nor set may be set, to its own value or to point to the file. -/
theorem Conserves.set (h : Conserves c env env' delivery) {name value : String}
    (hr : c.reserved.contains name = false) (hn : env'.get? name = none)
    (hv : c.value? name = some value ∨ name = pointerName ∧ delivery = some (.file value)) :
    Conserves c env (env'.set name value) delivery := by
  refine ⟨fun x v hx => ?_, fun x hx hnone => ?_, fun x v hx hm hxr hnone => ?_, fun x v hnone hx => ?_⟩
  · have hx' := h.kept x v hx
    have hne : x ≠ name := by rintro rfl; rw [hn] at hx'; cases hx'
    rwa [Environment.get?_set, if_neg hne]
  · have hne : x ≠ name := by rintro rfl; rw [hr] at hx; cases hx
    rw [Environment.get?_set, if_neg hne]
    exact h.unreserved x hx hnone
  · -- had `name` a value of its own to get, it would be set already
    have hx' := h.verbatim x v hx hm hxr hnone
    have hne : x ≠ name := by rintro rfl; rw [hn] at hx'; cases hx'
    rwa [Environment.get?_set, if_neg hne]
  · rw [Environment.get?_set] at hx
    split at hx
    · rename_i he
      subst he
      cases hx
      exact hv
    · exact h.founded x v hnone hx

/-- The plain variables conserve the environment. -/
theorem conserves_withPlain (c : Contributor) (env : Environment) (delivery : Option Delivery) :
    Conserves c env (c.withPlain env) delivery := by
  refine ⟨fun x v hx => ?_, fun x hx hnone => ?_, fun x v hx hm hxr hnone => ?_, fun x v hnone hx => .inl ?_⟩
  · simp [get?_withPlain, hx]
  · simp [get?_withPlain, hnone, hx]
  · simp [get?_withPlain, hnone, hxr, hm, hx]
  · rw [get?_withPlain, hnone, Option.none_or] at hx
    split at hx
    · cases hx
    · exact hx

/-- The message as a variable conserves the environment. -/
theorem conserves_message {value : String} (hm : c.message? env = some value) :
    Conserves c env ((c.withPlain env).set messageName value) delivery := by
  obtain ⟨hr, hnone, hv⟩ := message?_eq_some_iff.1 hm
  exact (conserves_withPlain c env delivery).set hr (by rw [get?_withPlain_message, hnone]) (.inl hv)

variable {σ : Type} [FileStore σ]

/-- The delivery of the message conserves the environment, as all that is set before it does. -/
theorem conclude_conserves (c : Contributor) (run : Run) (env : Environment) (store : σ) :
    Conserves c env (c.conclude run env store).value.1 (c.conclude run env store).value.2 := by
  have h := c.concludes run env store
  generalize c.conclude run env store = out at h ⊢
  cases h with
  | silent => exact conserves_withPlain c env none
  | direct hm => exact conserves_message hm
  | guarded hm => exact conserves_message hm
  | failed hm => exact conserves_message hm
  | filed _ _ ht =>
    obtain ⟨hr, hn⟩ := isTaken_eq_false_iff.1 ht
    exact (conserves_withPlain c env _).set hr hn (.inr ⟨rfl, rfl⟩)

/-- A variable that is set keeps its value through a contribution. -/
theorem kept_contribute (c : Contributor) (run : Run) (store : σ) {name value : String} (h : env.get? name = some value) :
    (c.contribute run (some env) store).get? name = some value := by
  rw [contribute_eq]
  exact (c.conclude_conserves run env store).kept name value h

/-- **A contribution conserves the environment.** -/
theorem contribute_conserves (c : Contributor) (run : Run) (env : Environment) (store : σ) :
    ∃ env', (c.contribute run (some env) store).env = some env' ∧
      Conserves c env env' (c.contribute run (some env) store).report.message := by
  rw [contribute_eq]
  exact ⟨_, rfl, c.conclude_conserves run env store⟩

end Contributor

end CiMessage
