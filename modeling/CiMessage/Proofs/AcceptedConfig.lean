import CiMessage.Config.Source
import CiMessage.Proofs.Components

/-!
# Accepted configurations are honoured

A configuration is accepted when it comes out of one of the ways in which configurations are made: from a JSON text, from a
file on disk, or from overrides of any other configuration (`Config.Accepted`). They all end in `Config.validate`, but for
different texts: the name of the workspace as the JSON text spells it, without the white space around it if it is an
override, or the default one.

What is accepted has a plain name for the workspace (`Config.accepted_iff`), and that is the condition under which the
workspace of every run with a root is the entry of this name, and never the root itself (`Config.honoured_iff`).
-/

namespace CiMessage

namespace Config

/-- A configuration that was accepted. -/
inductive Accepted : Config → Prop
  | ofJson {text : String} {c : Config} (h : ofJson text = .ok c) : Accepted c
  | load {disk : Disk} {path : Path} {c : Config} (h : load disk path = .ok c) : Accepted c
  | override {base : Config} {lookup : String → Option String} {c : Config} (h : base.override lookup = .ok c) :
    Accepted c
  | ofEnvironment {env : Environment.Raw} {c : Config} (h : ofEnvironment env = .ok c) : Accepted c
  | resolve {disk : Disk} {path : Option Path} {env : Environment.Raw} {c : Config}
    (h : resolve disk path env = .ok c) : Accepted c

/-- Every run that knows its root directory has the workspace that the configuration names, and nothing is told of another
one. -/
def Honoured (c : Config) : Prop :=
  ∀ (id : String) (root : Path), root.isEmpty = false →
    ∃ dir : Path, dir.IsEntry root c.workspaceSubdir ∧
      (Run.mk id (.rooted (some root))).workspace c.workspaceSubdir = (.ok dir, [])

/-! ## What is accepted -/

theorem validate_eq_ok_iff {c c' : Config} :
    c.validate = .ok c' ↔ Workspace.isPlainName c.workspaceSubdir = true ∧ c' = c := by
  unfold validate
  cases Workspace.isPlainName c.workspaceSubdir <;> simp [eq_comm]

theorem isPlainName_of_validate {c c' : Config} (h : c.validate = .ok c') :
    Workspace.isPlainName c'.workspaceSubdir = true := by
  obtain ⟨hplain, rfl⟩ := validate_eq_ok_iff.1 h
  exact hplain

theorem isPlainName_of_ofJson {text : String} {c : Config} (h : Config.ofJson text = .ok c) :
    Workspace.isPlainName c.workspaceSubdir = true := by
  unfold Config.ofJson at h
  split at h
  · exact isPlainName_of_validate h
  · cases h

theorem isPlainName_of_load {disk : Disk} {path : Path} {c : Config} (h : Config.load disk path = .ok c) :
    Workspace.isPlainName c.workspaceSubdir = true := by
  unfold Config.load at h
  split at h
  · unfold ofBytes at h
    split at h
    · exact isPlainName_of_ofJson h
    · cases h
  · cases h

/-- Overrides are validated whatever they are applied to. -/
theorem isPlainName_of_override {base c : Config} {lookup : String → Option String}
    (h : base.override lookup = .ok c) : Workspace.isPlainName c.workspaceSubdir = true := by
  unfold Config.override at h
  split at h
  · exact isPlainName_of_validate h
  · cases h

theorem isPlainName_of_resolve {disk : Disk} {path : Option Path} {env : Environment.Raw} {c : Config}
    (h : Config.resolve disk path env = .ok c) : Workspace.isPlainName c.workspaceSubdir = true := by
  unfold Config.resolve at h
  split at h
  · cases h
  · rename_i base hbase
    cases hover : base.override env.get? with
    | error e =>
      rw [hover] at h
      cases h
    | ok c' =>
      rw [hover] at h
      cases h
      exact isPlainName_of_override hover

/-- **A configuration is accepted** in one of the ways when it names a workspace. -/
theorem accepted_iff {c : Config} : c.Accepted ↔ Workspace.isPlainName c.workspaceSubdir = true := by
  constructor
  · intro h
    cases h with
    | ofJson h => exact isPlainName_of_ofJson h
    | load h => exact isPlainName_of_load h
    | override h => exact isPlainName_of_override h
    | ofEnvironment h => exact isPlainName_of_override h
    | resolve h => exact isPlainName_of_resolve h
  · intro h
    -- without overrides it is validated as it is
    have hover : c.override (fun _ => none) = c.validate := rfl
    exact .override (hover.trans (validate_eq_ok_iff.2 ⟨h, rfl⟩))

/-! ## What is honoured -/

/-- **A configuration is honoured** when it names a workspace. -/
theorem honoured_iff {c : Config} : c.Honoured ↔ Workspace.isPlainName c.workspaceSubdir = true := by
  constructor
  · intro h
    obtain ⟨dir, hentry, -⟩ := h "" (.ofText "/") (by decide)
    exact hentry.plain
  · intro h id root hroot
    have hchild : Workspace.child root c.workspaceSubdir = .ok (root.join (Utf8.encode c.workspaceSubdir)) :=
      Workspace.child_eq_ok_iff.2 ⟨hroot, h, rfl⟩
    refine ⟨_, Workspace.child_eq_ok_iff_isEntry.1 hchild, ?_⟩
    simp only [Run.workspace, hchild]

/-- **A configuration that was accepted is honoured.** Its workspace has a plain name, and for every run with a root
directory that is the entry of the root of this name; the root itself is never taken in its place. -/
theorem honoured_of_accepted (c : Config) :
    (c.Accepted ↔ Workspace.isPlainName c.workspaceSubdir = true) ∧ (c.Accepted ↔ c.Honoured) := by
  refine ⟨accepted_iff, ?_⟩
  rw [accepted_iff, honoured_iff]

/-- An override mends a configuration that is not accepted as it is. -/
example :
    let base : Config := ⟨true, false, "../up"⟩
    let lookup (key : String) : Option String := if key = Override.subdir.key then some " ws\n" else none
    base.validate = .error (.invalidValue subdirKey "../up") ∧ base.override lookup = .ok ⟨true, false, "ws"⟩ := by
  constructor <;> cbv

end Config

end CiMessage
