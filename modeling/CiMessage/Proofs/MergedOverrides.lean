import CiMessage.Proofs.Precedence

/-!
# Overrides over overrides

Overrides from two sources can be applied one source after the other, or be merged and applied at once; in a merge the
upper source decides, and the lower one where the upper sets nothing (`Override.merge`). Once the lower source has been
accepted, both ways come to the same, also when they fail (`override_override`). So overrides act on configurations: what
was accepted may be applied again without effect, and no overrides leave an accepted configuration as it is.

Two facts carry this. The values of merged overrides are the layer of the upper values over that of the lower ones
(`Override.values_merge`, `Draft.or_over`). And a text of the upper source that is refused first is refused first in the
merge, since no text of the lower one is refused (`Override.firstRefused_merge`).
-/

namespace CiMessage.Config

/-- The fields of a layer, and those of a lower one where it has none. -/
def Draft.or (d e : Draft) : Draft :=
  ⟨d.redirectEnabled.or e.redirectEnabled, d.verifyAfterWrite.or e.verifyAfterWrite,
    d.workspaceSubdir.or e.workspaceSubdir⟩

/-- **Two layers over a configuration** are put there one after the other. -/
theorem Draft.or_over (d e : Draft) (c : Config) : (d.or e).over c = d.over (e.over c) := by
  simp only [Draft.or, Draft.over, Option.getD_or]

namespace Override

/-- The texts of an upper source, and those of a lower one where it has none. -/
def merge (upper lower : String → Option String) (key : String) : Option String := (upper key).or (lower key)

theorem merge_self (lookup : String → Option String) : merge lookup lookup = lookup := by
  funext key
  exact Option.or_self

variable {upper lower : String → Option String} {o : Override} {raw : String}

/-- A text of a merge comes from one of the sources. -/
theorem eq_some_of_merge {key : String} (h : merge upper lower key = some raw) :
    upper key = some raw ∨ lower key = some raw := by
  rcases Option.or_eq_some_iff.1 h with h | ⟨-, h⟩
  · exact .inl h
  · exact .inr h

/-- A merge of texts that can be used can be used. -/
theorem usable_merge (hupper : Usable fun o => upper o.key) (hlower : Usable fun o => lower o.key) :
    Usable fun o => merge upper lower o.key := by
  intro o raw h
  rcases eq_some_of_merge h with h | h
  · exact hupper o raw h
  · exact hlower o raw h

/-- **A text of the upper source is refused first in a merge** when it is in that source, and the lower one has none that
is refused. -/
theorem firstRefused_merge (h : FirstRefused (fun o => upper o.key) o raw) (hlower : Usable fun o => lower o.key) :
    FirstRefused (fun o => merge upper lower o.key) o raw where
  assigned := Option.or_eq_some_iff.2 (.inl h.assigned)
  refused := h.refused
  earlier o' ho' raw' h' := by
    rcases eq_some_of_merge h' with h' | h'
    · exact h.earlier o' ho' raw' h'
    · exact hlower o' raw' h'

/-- The value of a text that can be used, and that of a lower text when there is none. -/
theorem bind_or {α : Type} {f : String → Option α} {text : Option String}
    (h : ∀ raw, text = some raw → (f raw).isSome = true) (text' : Option String) :
    (text.or text').bind f = (text.bind f).or (text'.bind f) := by
  cases text with
  | none => rfl
  | some raw =>
    obtain ⟨value, hvalue⟩ := Option.isSome_iff_exists.1 (h raw rfl)
    simp [hvalue]

/-- **The values of a merge** are those of the upper source, and those of the lower one where it has none. -/
theorem values_merge (h : Usable fun o => upper o.key) :
    values (fun o => merge upper lower o.key) = (values fun o => upper o.key).or (values fun o => lower o.key) := by
  have hredirect := bind_or (f := boolean?) (h redirect) (lower redirect.key)
  have hverify := bind_or (f := boolean?) (h verify) (lower verify.key)
  have hsubdir := bind_or (f := subdir?) (h subdir) (lower subdir.key)
  simp only [values, merge, Draft.or, hredirect, hverify, hsubdir]

end Override

open Override (merge Usable)

/-- **Overrides act on configurations.** Over a configuration with accepted overrides, other ones come to the same as both
merged over the configuration below, in what results and in what is refused. Accepted overrides change nothing when they
come again, and what no overrides leave as it is are the accepted configurations. -/
theorem override_override :
    (∀ (base c : Config) (lower : String → Option String), base.override lower = .ok c →
      (∀ upper, c.override upper = base.override (merge upper lower)) ∧ c.override lower = .ok c) ∧
    ∀ c : Config, c.override (fun _ => none) = .ok c ↔ c.Accepted := by
  have hmerge : ∀ (base c : Config) (lower upper : String → Option String), base.override lower = .ok c →
      c.override upper = base.override (merge upper lower) := by
    intro base c lower upper h
    obtain ⟨hlower, -, rfl⟩ := (override_eq_ok_iff rfl).1 h
    rcases Override.usable_or_firstRefused fun o => upper o.key with hupper | ⟨o, raw, hrefused⟩
    · rw [Override.override_of_usable hupper, Override.override_of_usable (Override.usable_merge hupper hlower),
        Override.values_merge hupper, Draft.or_over]
    · rw [Override.override_of_firstRefused hrefused,
        Override.override_of_firstRefused (Override.firstRefused_merge hrefused hlower)]
  refine ⟨fun base c lower h => ⟨fun upper => hmerge base c lower upper h, ?_⟩, fun c => ?_⟩
  · rw [hmerge base c lower lower h, Override.merge_self, h]
  · have hnone : c.override (fun _ => none) = c.validate := rfl
    rw [hnone, validate_eq_ok_iff, accepted_iff]
    exact and_iff_left rfl

/-- Over a configuration that is not accepted as it is, the lower source names a workspace, and the upper one is refused. -/
theorem override_override_of_mended :
    let base : Config := ⟨true, true, "../up"⟩
    let lower (key : String) : Option String :=
      if key = Override.subdir.key then some " ws " else if key = Override.redirect.key then some "off" else none
    let upper (key : String) : Option String := if key = Override.verify.key then some "maybe" else none
    base.validate = .error (.invalidValue subdirKey "../up") ∧ base.override lower = .ok ⟨false, true, "ws"⟩ ∧
      Config.override ⟨false, true, "ws"⟩ upper = base.override (merge upper lower) ∧
      base.override (merge upper lower) = .error (.invalidValue Override.verify.key "maybe") := by
  intro base lower upper
  have hbase : base.override lower = .ok ⟨false, true, "ws"⟩ := by decide +kernel
  exact ⟨by decide, hbase, (override_override.1 base _ lower hbase).1 upper, by decide +kernel⟩

end CiMessage.Config
