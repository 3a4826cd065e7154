import CiMessage.Proofs.Components
import CiMessage.Proofs.DiskPointer

/-!
# Files stay in their workspace

Whatever the name of a subdirectory and the name of a file are, a value that is sent to a file comes to an entry of the
workspace, or to no file.

* The workspace of a run is its own directory, its root, or one entry of its root (`Run.IsWorkspace`); which one it is
  depends on the path of the root and on the name of the subdirectory only (`Run.workspace_eq_ok_iff`).
* A file has the components of the workspace and then its name. What is no plain name is refused, and then nothing is
  written (`Run.redirect_of_refused`).

`Run.redirect_stays_inside` says this of stores in memory and on disk.
-/

namespace CiMessage

/-! ## Workspaces -/

namespace Run

/-- A path is the workspace of a run. -/
inductive IsWorkspace (run : Run) (subdir : String) : Path → Prop
  /-- The run has a workspace of its own. -/
  | own {dir : Path} (hh : run.handle = .direct (some dir)) : IsWorkspace run subdir dir
  /-- The workspace is an entry of the root. -/
  | entry {root dir : Path} (hh : run.handle = .rooted (some root)) (he : dir.IsEntry root subdir) :
    IsWorkspace run subdir dir
  /-- The root has no such entry, and is the workspace itself. -/
  | root {root : Path} (hh : run.handle = .rooted (some root))
    (hno : ¬ (root.isEmpty = false ∧ Workspace.isPlainName subdir = true)) : IsWorkspace run subdir root

/-- **Where the workspace of a run is.** -/
theorem workspace_eq_ok_iff {run : Run} {subdir : String} {dir : Path} :
    (∃ found, run.workspace subdir = (.ok dir, found)) ↔ run.IsWorkspace subdir dir := by
  obtain ⟨id, handle⟩ := run
  constructor
  · rintro ⟨found, h⟩
    rcases handle with (_ | own) | (_ | root)
    · cases h
    · cases h
      exact .own rfl
    · cases h
    · cases hc : Workspace.child root subdir with
      | ok entry =>
        simp only [workspace, hc] at h
        cases h
        exact .entry rfl (Workspace.child_eq_ok_iff_isEntry.1 hc)
      | error e =>
        simp only [workspace, hc] at h
        cases h
        refine .root rfl fun hroot => ?_
        rw [Workspace.child_eq_ok_iff.2 ⟨hroot.1, hroot.2, rfl⟩] at hc
        cases hc
  · intro h
    cases h with
    | own hh =>
      cases hh
      exact ⟨_, rfl⟩
    | entry hh he =>
      cases hh
      simp only [workspace, Workspace.child_eq_ok_iff_isEntry.2 he]
      exact ⟨_, rfl⟩
    | root hh hno =>
      cases hh
      simp only [workspace, Workspace.child_of_not hno]
      exact ⟨_, rfl⟩

/-- A value that is sent to a file of the run has this path, shown as a text. -/
def Reaches (run : Run) (subdir file path : String) : Prop :=
  ∃ dir target : Path, run.IsWorkspace subdir dir ∧ target.IsEntry dir file ∧ path = target.text

end Run

/-! ## Files -/

/-- The store in memory writes a file when its directory has an entry of the name, and writes do not fail. -/
theorem MemoryStore.writeText_eq_ok_iff {s s' : MemoryStore} {dir : Path} {file content path : String} :
    (∃ told, FileStore.writeText s dir file content = ⟨.ok path, s', told⟩) ↔
      ∃ target : Path, target.IsEntry dir file ∧ path = target.text ∧ s.failure = none ∧ s' = s.put path content := by
  simp only [← Workspace.child_eq_ok_iff_isEntry, writeText_eq]
  cases Workspace.child dir file with
  | error e => simp
  | ok target =>
    cases s.failure with
    | some kind => simp
    | none =>
      constructor
      · rintro ⟨told, h⟩
        cases h
        exact ⟨target, rfl, rfl, rfl, rfl⟩
      · rintro ⟨target', ht, rfl, -, rfl⟩
        cases ht
        exact ⟨[], rfl⟩

namespace Run

section Files

variable {run : Run} {config : Config} {dir : Path} {pointer file value path : String}

/-- A redirection into a workspace succeeds when the file is written there. -/
theorem redirect_into_iff {σ : Type} [FileStore σ] {store store' : σ} (hd : run.IsWorkspace config.workspaceSubdir dir) :
    (∃ events, run.redirect config store pointer file value = ⟨.ok ⟨pointer, path⟩, store', events⟩) ↔
      ∃ told, FileStore.writeText store dir file value = ⟨.ok path, store', told⟩ := by
  obtain ⟨found, hw⟩ := workspace_eq_ok_iff.2 hd
  rw [redirect_eq_ok_iff]
  constructor
  · rintro ⟨dir', found', told, hw', hwrite⟩
    cases hw.symm.trans hw'
    exact ⟨told, hwrite⟩
  · rintro ⟨told, hwrite⟩
    exact ⟨dir, found, told, hw, hwrite⟩

/-- **In memory** a value comes to the entry of the workspace that the name of the file is for. -/
theorem redirect_memory_iff {store store' : MemoryStore} (hd : run.IsWorkspace config.workspaceSubdir dir) :
    (∃ events, run.redirect config store pointer file value = ⟨.ok ⟨pointer, path⟩, store', events⟩) ↔
      ∃ target : Path, target.IsEntry dir file ∧ path = target.text ∧ store.failure = none ∧
        store' = store.put path value := by
  rw [redirect_into_iff hd, MemoryStore.writeText_eq_ok_iff]

/-- **On disk** a value is written under the path of the entry. -/
theorem redirect_disk_iff {disk disk' : Disk} (hd : run.IsWorkspace config.workspaceSubdir dir) :
    (∃ events, run.redirect config disk pointer file value = ⟨.ok ⟨pointer, path⟩, disk', events⟩) ↔
      ∃ target : Path, target.IsEntry dir file ∧ path = target.text ∧ disk.Writes dir file value target disk' := by
  rw [redirect_into_iff hd, Disk.writeText_eq_ok_iff]
  constructor
  · rintro ⟨target, hwrites, hpath⟩
    exact ⟨target, Workspace.child_eq_ok_iff_isEntry.1 hwrites.child, hpath, hwrites⟩
  · rintro ⟨target, -, hpath, hwrites⟩
    exact ⟨target, hwrites, hpath⟩

/-- What a store refuses is not written, and the redirection tells why. -/
theorem redirect_of_refused {σ : Type} [FileStore σ] {store : σ} {e : FileError}
    (hd : run.IsWorkspace config.workspaceSubdir dir)
    (hrefused : FileStore.writeText store dir file value = ⟨.error e, store, []⟩) :
    ∃ events, run.redirect config store pointer file value = ⟨.error (.write e), store, events⟩ := by
  obtain ⟨found, hw⟩ := workspace_eq_ok_iff.2 hd
  simp only [redirect, hw, writeValue, hrefused]
  exact ⟨_, rfl⟩

end Files

/-- **Files stay in their workspace.** The workspace of a run is its own directory, an entry of its root, or its root. A
value that is sent to a file is written under the path of the entry of that name, and its path is shown as a text; if there
is no such entry, the redirection fails for that reason, and nothing is written. -/
theorem redirect_stays_inside (run : Run) (config : Config) (pointer file value : String) (dir : Path) :
    ((∃ found, run.workspace config.workspaceSubdir = (.ok dir, found)) ↔
      run.IsWorkspace config.workspaceSubdir dir) ∧
    (run.IsWorkspace config.workspaceSubdir dir →
      (∀ (store store' : MemoryStore) (path : String),
        (∃ events, run.redirect config store pointer file value = ⟨.ok ⟨pointer, path⟩, store', events⟩) ↔
          ∃ target : Path, target.IsEntry dir file ∧ path = target.text ∧ store.failure = none ∧
            store' = store.put path value) ∧
      (∀ (disk disk' : Disk) (path : String),
        (∃ events, run.redirect config disk pointer file value = ⟨.ok ⟨pointer, path⟩, disk', events⟩) ↔
          ∃ target : Path, target.IsEntry dir file ∧ path = target.text ∧ disk.Writes dir file value target disk') ∧
      (dir.isEmpty = true ∨ file = "" ∨ file = "." ∨ file = ".." ∨ '/' ∈ file.toList ∨ '\\' ∈ file.toList ∨
          '\x00' ∈ file.toList →
        (∀ store : MemoryStore, ∃ events, run.redirect config store pointer file value =
          ⟨.error (.write (.invalidChild dir.text file)), store, events⟩) ∧
        ∀ disk : Disk, ∃ events, run.redirect config disk pointer file value =
          ⟨.error (.write (.invalidChild dir.text file)), disk, events⟩)) := by
  refine ⟨workspace_eq_ok_iff, fun hd => ⟨fun _ _ _ => redirect_memory_iff hd, fun _ _ _ => redirect_disk_iff hd,
    fun hbad => ?_⟩⟩
  rw [← Workspace.isPlainName_eq_false_iff] at hbad
  have hchild : Workspace.child dir file = .error (.invalidChild dir.text file) := by
    refine Workspace.child_of_not fun h => ?_
    rcases hbad with hempty | hname
    · rw [h.1] at hempty
      cases hempty
    · rw [h.2] at hname
      cases hname
  refine ⟨fun store => redirect_of_refused hd ?_, fun disk => redirect_of_refused hd ?_⟩
  · rw [MemoryStore.writeText_eq, hchild]
  · simp only [FileStore.writeText, Disk.writeText, hchild]

/-- Neither the name of a subdirectory nor the name of a file leads out of the root of a run. -/
theorem redirect_stays_inside_against_escapes :
    let run : Run := ⟨"pipeline", .rooted (some (.ofText "/jobs/4/"))⟩
    let config : Config := ⟨true, true, "../up"⟩
    let dir : Path := .ofText "/jobs/4/"
    run.IsWorkspace config.workspaceSubdir dir ∧
      (∃ events, run.redirect config MemoryStore.empty "NOTES" "../notes" "text" =
        ⟨.error (.write (.invalidChild dir.text "../notes")), .empty, events⟩) ∧
      ∃ events, run.redirect config MemoryStore.empty "NOTES" "notes" "text" =
        ⟨.ok ⟨"NOTES", "/jobs/4/notes"⟩, MemoryStore.empty.put "/jobs/4/notes" "text", events⟩ := by
  intro run config dir
  have hd : run.IsWorkspace config.workspaceSubdir dir := .root rfl (by decide)
  have hbad := (redirect_stays_inside run config "NOTES" "../notes" "text" dir).2 hd
  have hgood := (redirect_stays_inside run config "NOTES" "notes" "text" dir).2 hd
  have hslash : '/' ∈ "../notes".toList := by decide
  have hentry : (Path.ofText "/jobs/4/notes").IsEntry dir "notes" := ⟨by decide, by decide, by decide, by decide⟩
  refine ⟨hd, (hbad.2.2 (.inr (.inr (.inr (.inr (.inl hslash)))))).1 MemoryStore.empty, ?_⟩
  exact (hgood.1 _ _ _).2 ⟨_, hentry, by decide, rfl, rfl⟩

end Run

end CiMessage
