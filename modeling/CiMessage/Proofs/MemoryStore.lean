import CiMessage.Redirect
import CiMessage.Store.Memory

/-!
# Redirection to a store in memory

A write to a store in memory either fails and leaves the store as it was, or puts one file (`writeText_eq`), and the same
holds of a redirection (`redirect_cases`). A message gets its file exactly when the handle of the run has a directory
with a path and writes are not made to fail (`redirectMessage_ok_iff`); the subdirectory does not matter to that.
-/

namespace CiMessage

/-! ## Workspaces -/

/-- A path with something added to it is not empty. -/
theorem Path.isEmpty_join {p : Path} (hp : p.isEmpty = false) (name : List UInt8) : (p.join name).isEmpty = false := by
  obtain ⟨bytes⟩ := p
  cases bytes with
  | nil => cases hp
  | cons b rest =>
    unfold join
    split <;> rfl

/-- **A directory has an entry of a name** when its path is not empty and the name is plain. -/
theorem Workspace.child_eq_ok_iff {dir target : Path} {name : String} : child dir name = .ok target ↔
    dir.isEmpty = false ∧ isPlainName name = true ∧ target = dir.join (Utf8.encode name) := by
  unfold child
  cases dir.isEmpty <;> cases isPlainName name <;> simp [eq_comm]

/-- A directory has no other entries. -/
theorem Workspace.child_of_not {dir : Path} {name : String} (h : ¬ (dir.isEmpty = false ∧ isPlainName name = true)) :
    child dir name = .error (.invalidChild dir.text name) := by
  unfold child
  cases hd : dir.isEmpty <;> cases hn : isPlainName name <;> simp [hd, hn] at h ⊢

/-- The path of an entry is that of the directory with the name added. -/
theorem Workspace.child_eq_ok {dir target : Path} {name : String} (h : child dir name = .ok target) :
    dir.isEmpty = false ∧ target = dir.join (Utf8.encode name) := by
  obtain ⟨hd, -, ht⟩ := child_eq_ok_iff.1 h
  exact ⟨hd, ht⟩

namespace Run

/-- Has the run a directory with a path? -/
def HasPlace (run : Run) : Prop := ∃ dir, run.handle.dir = some dir ∧ dir.isEmpty = false

/-- A run without a directory has no workspace; otherwise its workspace has an empty path when its directory has. -/
theorem workspace_cases (run : Run) (subdir : String) :
    (run.handle.dir = none ∧ ∃ cause found, run.workspace subdir = (.error cause, found)) ∨
    ∃ dir ws found, run.handle.dir = some dir ∧ ws.isEmpty = dir.isEmpty ∧ run.workspace subdir = (.ok ws, found) := by
  obtain ⟨id, handle⟩ := run
  rcases handle with (_ | dir) | (_ | root)
  · exact .inl ⟨rfl, _, _, rfl⟩
  · exact .inr ⟨dir, dir, _, rfl, rfl, rfl⟩
  · exact .inl ⟨rfl, _, _, rfl⟩
  · right
    simp only [workspace]
    cases hc : Workspace.child root subdir with
    | error e => exact ⟨root, root, _, rfl, rfl, rfl⟩
    | ok dir =>
      obtain ⟨hroot, hdir⟩ := Workspace.child_eq_ok hc
      exact ⟨root, dir, _, rfl, by rw [hroot, hdir, Path.isEmpty_join hroot], rfl⟩

end Run

/-! ## Writes -/

namespace MemoryStore

/-- The store with one more write. -/
def put (s : MemoryStore) (path content : String) : MemoryStore :=
  { s with files := s.files.insert path content, writes := s.writes + 1 }

@[simp] theorem contents_put (s : MemoryStore) (path content x : String) :
    (s.put path content).contents x = if x = path then some content else s.contents x :=
  SortedMap.get?_insert s.files path content x

@[simp] theorem writes_put (s : MemoryStore) (path content : String) : (s.put path content).writes = s.writes + 1 := rfl

/-- **A write:** the name of the file is looked at first, then whether writes are to fail. -/
theorem writeText_eq (s : MemoryStore) (dir : Path) (file content : String) :
    FileStore.writeText s dir file content =
      match Workspace.child dir file, s.failure with
      | .error e, _ => ⟨.error e, s, []⟩
      | .ok target, some kind => ⟨.error (.ofIo target.text (.ofKind kind)), s, []⟩
      | .ok target, none => ⟨.ok target.text, s.put target.text content, []⟩ := by
  obtain ⟨files, failure, hidden, writes⟩ := s
  simp only [FileStore.writeText, write]
  cases Workspace.child dir file with
  | error e => rfl
  | ok target => cases failure <;> rfl

end MemoryStore

/-! ## Redirections -/

namespace Run

/-- Where a value sent to a file comes to, or what keeps it from there; the value itself does not matter. -/
def destination (run : Run) (subdir : String) (store : MemoryStore) (file : String) : Except RedirectError String :=
  match (run.workspace subdir).1 with
  | .error cause => .error cause
  | .ok dir =>
    match Workspace.child dir file, store.failure with
    | .error e, _ => .error (.write e)
    | .ok target, some kind => .error (.write (.ofIo target.text (.ofKind kind)))
    | .ok target, none => .ok target.text

/-- What is told about a file that was just put into the store: its size is right, or files are hidden. -/
theorem verification_put (store : MemoryStore) (path value : String) :
    verification (store.put path value) path value.utf8ByteSize =
      if store.hidden then .missingAfterWrite path else .verified path value.utf8ByteSize := by
  unfold verification
  simp only [FileStore.fileSize, MemoryStore.size?, MemoryStore.contents_put]
  show Event.ofSize path value.utf8ByteSize (if store.hidden then none else _) = _
  cases store.hidden <;> simp [Event.ofSize]

/-- **A redirection** by its destination. -/
theorem redirect_eq (run : Run) (config : Config) (store : MemoryStore) (pointer file value : String) :
    run.redirect config store pointer file value =
      match run.destination config.workspaceSubdir store file with
      | .error cause =>
        ⟨.error cause, store, (run.workspace config.workspaceSubdir).2 ++ [.ofFailure cause value]⟩
      | .ok path =>
        ⟨.ok ⟨pointer, path⟩, store.put path value, (run.workspace config.workspaceSubdir).2 ++
          .ofWritten path value :: if config.verifyAfterWrite then
            [if store.hidden then .missingAfterWrite path else .verified path value.utf8ByteSize] else []⟩ := by
  unfold redirect destination
  rcases run.workspace config.workspaceSubdir with ⟨cause | dir, found⟩
  · rfl
  · simp only [writeValue, MemoryStore.writeText_eq]
    cases Workspace.child dir file with
    | error e => rfl
    | ok target =>
      cases store.failure with
      | some kind => rfl
      | none => simp only [verification_put, List.nil_append]

/-- **A redirection** fails and leaves the store as it was, or puts the value into one file. -/
theorem redirect_cases (run : Run) (config : Config) (store : MemoryStore) (pointer file value : String) :
    (∃ cause events, run.redirect config store pointer file value = ⟨.error cause, store, events⟩) ∨
    ∃ path events, run.redirect config store pointer file value = ⟨.ok ⟨pointer, path⟩, store.put path value, events⟩ := by
  rw [redirect_eq]
  cases run.destination config.workspaceSubdir store file with
  | error cause => exact .inl ⟨cause, _, rfl⟩
  | ok path => exact .inr ⟨path, _, rfl⟩

/-- A failed redirection leaves the store as it was. -/
theorem store_of_redirect_error {run : Run} {config : Config} {store store' : MemoryStore}
    {pointer file value : String} {cause : RedirectError} {events : List Event}
    (h : run.redirect config store pointer file value = ⟨.error cause, store', events⟩) : store' = store := by
  rcases run.redirect_cases config store pointer file value with ⟨_, _, h'⟩ | ⟨_, _, h'⟩ <;> cases h'.symm.trans h
  rfl

/-- A redirection that succeeds puts the value into one file. -/
theorem store_of_redirect_ok {run : Run} {config : Config} {store store' : MemoryStore}
    {pointer file value : String} {p : Pointer} {events : List Event}
    (h : run.redirect config store pointer file value = ⟨.ok p, store', events⟩) : store' = store.put p.path value := by
  rcases run.redirect_cases config store pointer file value with ⟨_, _, h'⟩ | ⟨_, _, h'⟩ <;> cases h'.symm.trans h
  rfl

theorem child_messageFileName (dir : Path) : Workspace.child dir messageFileName =
    if dir.isEmpty then .error (.invalidChild dir.text messageFileName)
    else .ok (dir.join (Utf8.encode messageFileName)) := by
  have hname : Workspace.isPlainName messageFileName = true := by decide
  simp [Workspace.child, hname]

/-- **When a message gets its file:** the run has a place for it, and writes do not fail. -/
theorem redirectMessage_ok_iff (run : Run) (config : Config) (store : MemoryStore) (value : String) :
    (∃ p, (run.redirectMessage config store value).value = .ok p) ↔ run.HasPlace ∧ store.failure = none := by
  unfold redirectMessage redirect HasPlace
  rcases run.workspace_cases config.workspaceSubdir with ⟨hd, cause, found, hw⟩ | ⟨dir, ws, found, hd, he, hw⟩
  · simp [hw, hd]
  · simp only [hw, hd, writeValue, MemoryStore.writeText_eq, child_messageFileName, he]
    cases hp : dir.isEmpty <;> cases store.failure <;> simp [hp]

end Run

end CiMessage
