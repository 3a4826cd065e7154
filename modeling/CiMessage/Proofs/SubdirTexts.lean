import CiMessage.Proofs.ConfigTexts
import CiMessage.Proofs.Trimming

/-!
# Two ways to name the workspace

The name of the workspace comes from an override, which may have white space around it, or from the member of an object,
where it stands with escapes and is taken as it is. An override and an object with the text of the override, white space
removed, come to the same configuration or are both refused (`subdir_sources_agree`).

The override checks the name before it is put into the configuration, and the object afterwards. So their errors differ:
the override is reported with its white space and under the name of the variable, and the object with the name as it was
decoded and under the key of the member.
-/

namespace CiMessage.Config

open Json (Document Value)

/-! ## The override -/

/-- An override of the workspace is put over a configuration when it is a plain name between white space. -/
theorem override_subdir (base : Config) (s : String) :
    base.override (Override.only .subdir s) =
      if Workspace.isPlainName (Text.trim s) then .ok { base with workspaceSubdir := Text.trim s }
      else .error (.invalidValue Override.subdir.key s) := by
  rw [Override.override_only, Override.set?, Override.subdir?]
  by_cases hplain : Workspace.isPlainName (Text.trim s) = true
  · rw [if_pos hplain, if_pos hplain]
    exact validate_eq_ok_iff.2 ⟨hplain, rfl⟩
  · rw [if_neg hplain, if_neg hplain]
    rfl

/-! ## The object -/

/-- The text spells an object that has the name of the workspace and nothing else. -/
def NamesSubdir (text name : String) : Prop :=
  ∃ doc : Document, doc.text = text ∧ doc.value.value = .ok (.object [(subdirKey, .string name)])

/-- The compact text of the object is one of them. -/
theorem namesSubdir_text (name : String) : NamesSubdir (Value.object [(subdirKey, .string name)]).text name := by
  have hspelled : (Value.object [(subdirKey, .string name)]).Spelled 1 := by
    refine Json.spelled_object fun m hm => ?_
    rw [List.mem_singleton.1 hm]
    exact Json.spelled_string ..
  obtain ⟨doc, htext, hvalue, -⟩ := hspelled.exists_document
  exact ⟨doc, htext, hvalue⟩

/-- The object lists the workspace only. -/
theorem listed_of_namesSubdir {text name : String} (h : NamesSubdir text name) :
    listed text = .ok ⟨none, none, some name⟩ := by
  obtain ⟨doc, rfl, hvalue⟩ := h
  obtain ⟨ms, hms, hvalues⟩ := Json.Spelling.exists_hasMembers hvalue
  -- there is one member, which carries the name
  obtain ⟨⟨key, v⟩, rfl, hm⟩ := List.map_eq_singleton_iff.1 hvalues
  obtain ⟨rfl, hname⟩ : key = subdirKey ∧ v.value = .ok (.string name) := Prod.mk.inj hm
  have hcarries : ∀ m ∈ [(subdirKey, v)], Carries ⟨true, true, name⟩ m.1 m.2 := by
    intro m hm
    obtain rfl := List.mem_singleton.1 hm
    obtain ⟨-, hredirect, hverify⟩ := keys_ne
    exact ⟨fun h => absurd h.symm hredirect, fun h => absurd h.symm hverify, fun _ => hname⟩
  have honce : ∀ key ∈ fieldKeys, [subdirKey].count key ≤ 1 := by decide
  rw [listed_of_carries hms hcarries honce]
  rfl

/-- **The object is the defaults with its name for the workspace,** if that is a plain name. -/
theorem ofJson_of_namesSubdir {text name : String} (h : NamesSubdir text name) :
    ofJson text =
      if Workspace.isPlainName name then .ok { default with workspaceSubdir := name }
      else .error (.invalidValue subdirKey name) := by
  rw [ofJson_eq, listed_of_namesSubdir h]
  rfl

/-! ## Both -/

section Outcomes

variable {ε α : Type} {p : Prop} [Decidable p] {a a' : α} {e e' : ε}

/-- What is accepted under a condition is accepted when it holds. -/
theorem ite_eq_ok_iff : (if p then .ok a else .error e : Except ε α) = .ok a' ↔ p ∧ a' = a := by
  by_cases hp : p
  · rw [if_pos hp, Except.ok.injEq, and_iff_right hp, eq_comm]
  · simp [hp]

/-- What is accepted under a condition is refused when it does not hold. -/
theorem ite_eq_error_iff : (if p then .ok a else .error e : Except ε α) = .error e' ↔ ¬ p ∧ e' = e := by
  by_cases hp : p
  · simp [hp]
  · rw [if_neg hp, Except.error.injEq, and_iff_right hp, eq_comm]

end Outcomes

/-- **An override and an object name the same workspace.** The override is a text over the defaults, and the object has
the name that is left of the text without the white space at its ends, in any spelling. Both come to the same
configuration, or both are refused, the one with its text and the other one with the name. -/
theorem subdir_sources_agree (s : String) :
    ∃ name, (∀ t, Text.Strips s t ↔ t = name) ∧
      NamesSubdir (Value.object [(subdirKey, .string name)]).text name ∧
      ∀ text, NamesSubdir text name →
        let overridden := default.override (Override.only .subdir s)
        let named : Config := { default with workspaceSubdir := name }
        let plain := Workspace.isPlainName name = true
        (∀ c, overridden = .ok c ↔ ofJson text = .ok c) ∧ (∀ c, overridden = .ok c ↔ plain ∧ c = named) ∧
          (∀ e, overridden = .error e ↔ ¬ plain ∧ e = .invalidValue Override.subdir.key s) ∧
          ∀ e, ofJson text = .error e ↔ ¬ plain ∧ e = .invalidValue subdirKey name := by
  refine ⟨Text.trim s, fun t => Text.strips_iff, namesSubdir_text _, fun text htext => ?_⟩
  intro overridden named plain
  have hover : overridden = _ := override_subdir default s
  have hread := ofJson_of_namesSubdir htext
  refine ⟨fun c => ?_, fun c => ?_, fun e => ?_, fun e => ?_⟩
  · rw [hover, hread, ite_eq_ok_iff, ite_eq_ok_iff]
  · rw [hover, ite_eq_ok_iff]
  · rw [hover, ite_eq_error_iff]
  · rw [hread, ite_eq_error_iff]

/-- A name with a quote in it, which is an escape in the object, and a name that is the parent directory once the white
space is gone. -/
theorem subdir_sources_agree_on_two :
    let quoted := (Value.object [(subdirKey, .string "ou\"t")]).text
    let parent := (Value.object [(subdirKey, .string "..")]).text
    quoted = "\x7b\"workspace_subdir\":\"ou\\\"t\"\x7d" ∧
      (default.override (Override.only .subdir "\u2003ou\"t\n") = .ok ⟨true, true, "ou\"t"⟩ ∧
        ofJson quoted = .ok ⟨true, true, "ou\"t"⟩) ∧
      default.override (Override.only .subdir "\t..\u00a0") =
          .error (.invalidValue "CIENV_WORKSPACE_SUBDIR" "\t..\u00a0") ∧
        ofJson parent = .error (.invalidValue "workspace_subdir" "..") := by
  refine ⟨by decide, ?_, ?_⟩
  · obtain ⟨name, hname, htext, h⟩ := subdir_sources_agree "\u2003ou\"t\n"
    obtain rfl := (hname "ou\"t").1 (Text.strips_iff.2 (by decide))
    obtain ⟨hboth, hok, -⟩ := h _ htext
    have hover := (hok _).2 ⟨by decide, rfl⟩
    exact ⟨hover, (hboth _).1 hover⟩
  · obtain ⟨name, hname, htext, h⟩ := subdir_sources_agree "\t..\u00a0"
    obtain rfl := (hname "..").1 (Text.strips_iff.2 (by decide))
    obtain ⟨-, -, hover, hread⟩ := h _ htext
    exact ⟨(hover _).2 ⟨by decide, rfl⟩, (hread _).2 ⟨by decide, rfl⟩⟩

end CiMessage.Config
