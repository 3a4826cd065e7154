import CiMessage.Proofs.Containment
import Mathlib.Data.List.Dedup

/-!
# The last write to a path counts

A store in memory is used by writes, also by those of redirections and contributions, and by looks at the sizes of files;
it can be told to fail and to hide its files. `MemoryStore.Operation` lists what can be done to it, and `reported?` is the
file that an operation reports: the path it answers, with the content it was given.

* `Does` lists what an operation can do: it puts the file that it reports, or it reports none and leaves the files alone.
* So what was reported (`log`) tells what a store holds: at each path the last content (`contents_run`), as many writes as
  there are reports (`writes_run`), and a file for each path (`fileCount_run`).
* When an operation reports a file depends on its arguments and on whether the store was told to fail
  (`reported?_write_iff`, `reported?_redirect_iff`, `reported?_contribute_iff`).
* A store that was told to fail reports nothing any more (`reported?_of_failure`). As long as it was not, sending values
  to one file leaves the last of them there (`redirects_leave_last`).

`LastWriterWins` puts this together, and `lastWriterWins` proves it of every history of an empty store.
-/

namespace CiMessage

/-- A map has as many keys as a list of its keys without repetition. -/
theorem SortedMap.size_eq_length {κ ν : Type} [Ord κ] [Std.LawfulEqOrd κ] [DecidableEq κ] {m : SortedMap κ ν}
    {l : List κ} (hl : l.Nodup) (h : ∀ k, k ∈ l ↔ m.contains k = true) : m.size = l.length := by
  have hperm : m.keys.Perm l := by
    refine (List.perm_ext_iff_of_nodup m.nodup_keys hl).2 fun k => ?_
    rw [mem_keys_iff, h]
  rw [← hperm.length_eq, keys, List.length_map, size]

/-- The path of a delivery to a file. -/
def Delivery.path? : Delivery → Option String
  | file path => some path
  | _ => none

namespace MemoryStore

/-- What can be done to a store. -/
inductive Operation where
  | write (dir : Path) (file content : String)
  /-- A value is sent to a file of the workspace of a run. -/
  | redirect (run : Run) (config : Config) (pointer file value : String)
  | contribute (c : Contributor) (run : Run) (env : Option Environment)
  | failWrites (kind : IoError.Kind)
  | hideFiles
  /-- The size of a file is asked for. -/
  | look (path : String)

/-- Is the store used, and not told how to behave from now on? -/
def Operation.isUse : Operation → Bool
  | failWrites _ | hideFiles => false
  | _ => true

/-- The store after an operation. -/
def step (s : MemoryStore) : Operation → MemoryStore
  | .write dir file content => (FileStore.writeText s dir file content).store
  | .redirect run config pointer file value => (run.redirect config s pointer file value).store
  | .contribute c run env => (c.contribute run env s).store
  | .failWrites kind => s.failWrites kind
  | .hideFiles => s.hideFiles
  | .look _ => s

/-- The file that an operation reports to have written: the path it answers, with the content it was given. -/
def reported? (s : MemoryStore) : Operation → Option (String × String)
  | .write dir file content => (FileStore.writeText s dir file content).value.toOption.map (·, content)
  | .redirect run config pointer file value =>
    (run.redirect config s pointer file value).value.toOption.map (·.path, value)
  | .contribute c run env => do
    let path ← (c.contribute run env s).report.message.bind Delivery.path?
    let text ← c.value? messageName
    return (path, text)
  | _ => none

/-- The store after a sequence of operations. -/
def run (s : MemoryStore) (ops : List Operation) : MemoryStore := ops.foldl step s

/-- The files that a sequence of operations reports, the last one first. -/
def log (s : MemoryStore) : List Operation → List (String × String)
  | [] => []
  | op :: ops => (s.step op).log ops ++ (s.reported? op).toList

/-! ## One operation -/

section Step

variable {s : MemoryStore}

/-- A value has a place to come to only while writes do not fail. -/
theorem failure_of_destination {run : Run} {subdir file path : String} (h : run.destination subdir s file = .ok path) :
    s.failure = none := by
  unfold Run.destination at h
  split at h
  · cases h
  · split at h
    · cases h
    · cases h
    · assumption

/-- A contribution that delivers to a file puts the message there while writes do not fail; any other leaves the store as
it was. -/
theorem contribute_outcome (s : MemoryStore) (c : Contributor) (run : Run) (env : Option Environment) :
    (∃ path text, (c.contribute run env s).report.message = some (.file path) ∧ c.value? messageName = some text ∧
      s.failure = none ∧ (c.contribute run env s).store = s.put path text) ∨
    (c.contribute run env s).report.message.bind Delivery.path? = none ∧ (c.contribute run env s).store = s := by
  cases env with
  | none =>
    rw [Contributor.contribute_none]
    exact .inr ⟨rfl, rfl⟩
  | some env =>
    rw [Contributor.contribute_eq, Contributor.conclude_memory]
    cases hm : c.message? env with
    | none => exact .inr ⟨rfl, rfl⟩
    | some text =>
      have hv : c.value? messageName = some text := (Contributor.message?_eq_some_iff.1 hm).2.2
      dsimp only
      cases hr : route c.config run s (c.isTaken (c.withPlain env) pointerName) with
      | file path =>
        refine .inl ⟨path, text, rfl, hv, ?_, rfl⟩
        unfold route at hr
        split at hr
        · cases hr
        · split at hr
          · cases hr
          · split at hr
            · cases hr
            · next hd => exact failure_of_destination hd
      | fallback cause => exact .inr ⟨rfl, rfl⟩
      | direct => exact .inr ⟨rfl, rfl⟩

/-- What an operation does: the file that it reports, and the store after it. -/
inductive Does (s : MemoryStore) (op : Operation) : Option (String × String) → MemoryStore → Prop
  /-- The file that is reported is put, which happens only while writes do not fail. -/
  | puts (hu : op.isUse = true) (hf : s.failure = none) (path content : String) :
    Does s op (some (path, content)) (s.put path content)
  /-- Nothing is written. -/
  | nothing (hu : op.isUse = true) : Does s op none s
  /-- From now on writes fail. -/
  | fails (kind : IoError.Kind) (ho : op = .failWrites kind) : Does s op none (s.failWrites kind)
  /-- From now on files are not seen. -/
  | hides (ho : op = .hideFiles) : Does s op none s.hideFiles

/-- **Every operation does one of these.** -/
theorem does (s : MemoryStore) (op : Operation) : Does s op (s.reported? op) (s.step op) := by
  cases op with
  | write dir file content =>
    simp only [reported?, step, writeText_eq]
    cases Workspace.child dir file with
    | error e => exact .nothing rfl
    | ok target =>
      cases hf : s.failure with
      | some kind => exact .nothing rfl
      | none => exact .puts rfl hf target.text content
  | redirect run config pointer file value =>
    simp only [reported?, step, Run.redirect_eq]
    cases hd : run.destination config.workspaceSubdir s file with
    | error cause => exact .nothing rfl
    | ok path => exact .puts rfl (failure_of_destination hd) path value
  | contribute c run env =>
    simp only [reported?, step]
    rcases s.contribute_outcome c run env with ⟨path, text, hd, hv, hf, hs⟩ | ⟨hd, hs⟩
    · rw [hd, hv, hs]
      exact .puts rfl hf path text
    · rw [hd, hs]
      exact .nothing rfl
  | failWrites kind => exact .fails kind rfl
  | hideFiles => exact .hides rfl
  | look path => exact .nothing rfl

theorem reported?_of_failure {kind : IoError.Kind} (hf : s.failure = some kind) (op : Operation) :
    s.reported? op = none := by
  have h := s.does op
  generalize s.reported? op = r, s.step op = s' at h
  cases h with
  | puts hu hnone => cases hf.symm.trans hnone
  | nothing | fails | hides => rfl

/-- A use that reports nothing leaves the store as it was. -/
theorem step_of_reported?_eq_none {op : Operation} (hu : op.isUse = true) (hr : s.reported? op = none) :
    s.step op = s := by
  have h := s.does op
  rw [hr] at h
  generalize s.step op = s' at h
  cases h with
  | nothing => rfl
  | fails kind ho | hides ho =>
    subst ho
    cases hu

/-- The content at a path after an operation is the one reported there, or as it was. -/
theorem contents_step (s : MemoryStore) (op : Operation) (path : String) :
    (s.step op).contents path = (SortedMap.lookup path (s.reported? op).toList).or (s.contents path) := by
  have h := s.does op
  generalize s.reported? op = r, s.step op = s' at h
  cases h with
  | puts _ _ p content =>
    rw [contents_put]
    by_cases hp : path = p <;> simp [SortedMap.lookup, hp]
  | nothing | fails | hides => rfl

theorem writes_step (s : MemoryStore) (op : Operation) :
    (s.step op).writes = s.writes + (s.reported? op).toList.length := by
  have h := s.does op
  generalize s.reported? op = r, s.step op = s' at h
  cases h <;> rfl

theorem failure_step (s : MemoryStore) (op : Operation) :
    (s.step op).failure = none ↔ s.failure = none ∧ ∀ kind, op ≠ .failWrites kind := by
  have h := s.does op
  generalize s.reported? op = r, s.step op = s' at h
  cases h with
  | puts hu | nothing hu =>
    have hne : ∀ kind, op ≠ .failWrites kind := by
      rintro kind rfl
      cases hu
    exact ⟨fun hf => ⟨hf, hne⟩, fun hf => hf.1⟩
  | fails kind ho => exact ⟨nofun, fun hf => absurd ho (hf.2 kind)⟩
  | hides ho =>
    subst ho
    exact ⟨fun hf => ⟨hf, nofun⟩, fun hf => hf.1⟩

theorem hidden_step (s : MemoryStore) (op : Operation) :
    (s.step op).hidden = true ↔ s.hidden = true ∨ op = .hideFiles := by
  have h := s.does op
  generalize s.reported? op = r, s.step op = s' at h
  cases h with
  | puts hu | nothing hu =>
    have hne : op ≠ .hideFiles := by
      rintro rfl
      cases hu
    exact ⟨.inl, fun hh => hh.resolve_right hne⟩
  | fails kind ho =>
    subst ho
    exact ⟨.inl, fun hh => hh.resolve_right nofun⟩
  | hides ho => exact iff_of_true rfl (.inr ho)

end Step

/-! ## Sequences of operations -/

section Run

/-- **The last write to a path counts:** its content is there after a sequence of operations. -/
theorem contents_run (s : MemoryStore) (ops : List Operation) (path : String) :
    (s.run ops).contents path = (SortedMap.lookup path (s.log ops)).or (s.contents path) := by
  induction ops generalizing s with
  | nil => rfl
  | cons op rest ih =>
    have hrest : (s.run (op :: rest)).contents path = _ := ih (s.step op)
    -- what the rest reports stands before what the operation reports, and is found first
    rw [hrest, contents_step, log, SortedMap.lookup_append, Option.or_assoc]

theorem writes_run (s : MemoryStore) (ops : List Operation) : (s.run ops).writes = s.writes + (s.log ops).length := by
  induction ops generalizing s with
  | nil => rfl
  | cons op rest ih =>
    have hrest : (s.run (op :: rest)).writes = _ := ih (s.step op)
    rw [hrest, writes_step, log, List.length_append]
    omega

theorem failure_run (s : MemoryStore) (ops : List Operation) :
    (s.run ops).failure = none ↔ s.failure = none ∧ ∀ kind, .failWrites kind ∉ ops := by
  induction ops generalizing s with
  | nil => simp [run]
  | cons op rest ih =>
    have hrest : (s.run (op :: rest)).failure = none ↔ _ := ih (s.step op)
    rw [hrest, failure_step, and_assoc]
    refine and_congr_right fun _ => ?_
    simp [forall_and, eq_comm]

theorem hidden_run (s : MemoryStore) (ops : List Operation) :
    (s.run ops).hidden = true ↔ s.hidden = true ∨ .hideFiles ∈ ops := by
  induction ops generalizing s with
  | nil => simp [run]
  | cons op rest ih =>
    have hrest : (s.run (op :: rest)).hidden = true ↔ _ := ih (s.step op)
    rw [hrest, hidden_step, or_assoc, List.mem_cons, eq_comm (a := op)]

/-- There are as many files in a store that was empty as different paths reported. -/
theorem fileCount_run (ops : List Operation) :
    (empty.run ops).fileCount = ((empty.log ops).map (·.1)).dedup.length := by
  -- the paths in the store are those of the log, since every content was reported
  refine SortedMap.size_eq_length (List.nodup_dedup _) fun path => ?_
  have hcontents : (empty.run ops).contents path = (SortedMap.lookup path (empty.log ops)).or none :=
    contents_run empty ops path
  rw [Option.or_none] at hcontents
  rw [List.mem_dedup, ← SortedMap.isSome_lookup_iff, ← hcontents]
  rfl

/-- Values that are sent to one file come there one after the other. -/
theorem run_redirects {run : Run} {config : Config} {pointer file path : String} (values : List String)
    {s : MemoryStore} (hd : run.destination config.workspaceSubdir s file = .ok path) :
    s.run (values.map (.redirect run config pointer file)) = values.foldl (fun s value => s.put path value) s := by
  induction values generalizing s with
  | nil => rfl
  | cons value rest ih =>
    have hstep : s.step (.redirect run config pointer file value) = s.put path value := by
      rw [step, Run.redirect_eq, hd]
    rw [List.map_cons, MemoryStore.run, List.foldl_cons, hstep, List.foldl_cons]
    exact ih hd

theorem contents_foldl_put (path : String) (values : List String) (s : MemoryStore) (other : String) :
    (values.foldl (fun s value => s.put path value) s).contents other =
      if other = path then values.getLast?.or (s.contents other) else s.contents other := by
  induction values generalizing s with
  | nil => simp
  | cons value rest ih =>
    rw [List.foldl_cons, ih, contents_put, List.getLast?_cons]
    by_cases hp : other = path
    · simp only [if_pos hp]
      cases rest.getLast? <;> rfl
    · simp only [if_neg hp]

theorem writes_foldl_put (path : String) (values : List String) (s : MemoryStore) :
    (values.foldl (fun s value => s.put path value) s).writes = s.writes + values.length := by
  induction values generalizing s with
  | nil => rfl
  | cons value rest ih =>
    rw [List.foldl_cons, ih, writes_put, List.length_cons]
    omega

theorem fileCount_eq_one {s : MemoryStore} {path content : String}
    (h : ∀ other, s.contents other = if other = path then some content else none) : s.fileCount = 1 := by
  refine SortedMap.size_eq_length (List.nodup_singleton path) fun other => ?_
  rw [List.mem_singleton, SortedMap.contains, ← contents, h]
  by_cases hp : other = path <;> simp [hp]

/-- **Values that are sent to one file** leave the last one there, and nothing elsewhere. -/
theorem redirects_leave_last {s : MemoryStore} {run : Run} {config : Config} {pointer file path last : String}
    {values : List String} (hlast : values.getLast? = some last)
    (hok : (run.redirect config s pointer file last).value = .ok ⟨pointer, path⟩) :
    let s' := s.run (values.map (.redirect run config pointer file))
    (∀ other, s'.contents other = if other = path then some last else s.contents other) ∧
      s'.writes = s.writes + values.length ∧
      ((∀ other, other ≠ path → s.contents other = none) → s'.fileCount = 1) := by
  have hd : run.destination config.workspaceSubdir s file = .ok path := by
    rw [Run.redirect_eq] at hok
    cases hd : run.destination config.workspaceSubdir s file with
    | error cause =>
      rw [hd] at hok
      cases hok
    | ok p =>
      rw [hd] at hok
      cases hok
      rfl
  rw [run_redirects values hd]
  have hcontents : ∀ other, (values.foldl (fun s value => s.put path value) s).contents other =
      if other = path then some last else s.contents other := by
    intro other
    rw [contents_foldl_put, hlast]
    rfl
  refine ⟨hcontents, writes_foldl_put path values s, fun hnone => ?_⟩
  have hone : ∀ other, (values.foldl (fun s value => s.put path value) s).contents other =
      if other = path then some last else none := by
    intro other
    rw [hcontents]
    by_cases hp : other = path
    · rw [if_pos hp, if_pos hp]
    · rw [if_neg hp, if_neg hp, hnone other hp]
  exact fileCount_eq_one hone

end Run

/-! ## When a file is reported -/

section Reported

variable {s : MemoryStore} {run : Run} {c : Contributor} {env : Option Environment} {path text : String}

theorem reported?_write_iff {dir : Path} {file content : String} :
    s.reported? (.write dir file content) = some (path, content) ↔
      dir.isEmpty = false ∧ Workspace.isPlainName file = true ∧ s.failure = none ∧
        path = (dir.join (Utf8.encode file)).text := by
  simp only [reported?, writeText_eq, Workspace.child]
  cases dir.isEmpty with
  | true => simp [Except.toOption]
  | false =>
    cases Workspace.isPlainName file with
    | false => simp [Except.toOption]
    | true => cases s.failure <;> simp [Except.toOption, eq_comm]

/-- A value is sent to a file when the run has a workspace with an entry for it, and writes do not fail. -/
theorem reported?_redirect_iff {config : Config} {pointer file value : String} :
    s.reported? (.redirect run config pointer file value) = some (path, value) ↔
      run.Reaches config.workspaceSubdir file path ∧ s.failure = none := by
  rw [reported?]
  constructor
  · intro h
    rcases run.redirect_cases config s pointer file value with ⟨cause, events, hr⟩ | ⟨path', events, hr⟩
    · rw [hr] at h
      cases h
    · rw [hr] at h
      cases h
      obtain ⟨dir, found, told, hw, hwrite⟩ := Run.redirect_eq_ok_iff.1 ⟨events, hr⟩
      obtain ⟨target, htarget, hpath, hf, -⟩ := writeText_eq_ok_iff.1 ⟨told, hwrite⟩
      exact ⟨⟨dir, target, Run.workspace_eq_ok_iff.1 ⟨found, hw⟩, htarget, hpath⟩, hf⟩
  · rintro ⟨⟨dir, target, hd, htarget, hpath⟩, hf⟩
    have hr : ∃ events, run.redirect config s pointer file value = ⟨.ok ⟨pointer, path⟩, s.put path value, events⟩ :=
      (Run.redirect_memory_iff hd).2 ⟨target, htarget, hpath, hf, rfl⟩
    obtain ⟨events, hr⟩ := hr
    rw [hr]
    rfl

theorem path?_eq_some_iff {d : Delivery} : d.path? = some path ↔ d = .file path := by
  cases d <;> simp [Delivery.path?]

/-- A message is sent to a file when it may go there, its pointer variable is not taken, and the file can be written. -/
theorem reported?_contribute_iff : s.reported? (.contribute c run env) = some (path, text) ↔
    ∃ e, env = some e ∧ c.message? e = some text ∧ c.config.redirectEnabled = true ∧
      c.isTaken (c.withPlain e) pointerName = false ∧
      run.Reaches c.config.workspaceSubdir messageFileName path ∧ s.failure = none := by
  cases env with
  | none => simp [reported?, Contributor.contribute_none, Report.empty]
  | some e =>
    simp only [Option.some.injEq, exists_eq_left']
    constructor
    · intro h
      simp only [reported?, Option.bind_eq_bind, Option.bind_eq_some_iff, path?_eq_some_iff, Option.pure_def,
        Option.some.injEq, Prod.mk.injEq] at h
      obtain ⟨_, ⟨_, hd, rfl⟩, _, hv, rfl, rfl⟩ := h
      obtain ⟨text', dir, found, told, hm, hr, ht, hw, hwrite⟩ := Contributor.report_file_iff.1 ⟨hd, rfl⟩
      obtain ⟨target, htarget, hpath, hf, -⟩ := writeText_eq_ok_iff.1 ⟨told, hwrite⟩
      cases hv.symm.trans (Contributor.message?_eq_some_iff.1 hm).2.2
      exact ⟨hm, hr, ht, ⟨dir, target, Run.workspace_eq_ok_iff.1 ⟨found, hw⟩, htarget, hpath⟩, hf⟩
    · rintro ⟨hm, hr, ht, ⟨dir, target, hd, htarget, hpath⟩, hf⟩
      obtain ⟨found, hw⟩ := Run.workspace_eq_ok_iff.2 hd
      obtain ⟨told, hwrite⟩ := writeText_eq_ok_iff.2 ⟨target, htarget, hpath, hf, rfl⟩
      have hfile := (Contributor.report_file_iff.2 ⟨text, dir, found, told, hm, hr, ht, hw, hwrite⟩).1
      have hv := (Contributor.message?_eq_some_iff.1 hm).2.2
      simp [reported?, hfile, hv, Delivery.path?]

end Reported

/-! ## Histories -/

/-- What an empty store has become by a sequence of operations. -/
structure LastWriterWins (ops : List Operation) (s : MemoryStore) : Prop where
  /-- At each path is the content that was reported there last. -/
  contents : ∀ path, s.contents path = SortedMap.lookup path (empty.log ops)
  writes : s.writes = (empty.log ops).length
  fileCount : s.fileCount = ((empty.log ops).map (·.1)).dedup.length
  /-- A use that reports no file changes nothing. -/
  atomic : ∀ op, op.isUse = true → s.reported? op = none → s.step op = s
  /-- A write succeeds when its directory has a path, its name is plain, and the store was not told to fail. -/
  accepted : ∀ dir file content path, s.reported? (.write dir file content) = some (path, content) ↔
    dir.isEmpty = false ∧ Workspace.isPlainName file = true ∧ (∀ kind, .failWrites kind ∉ ops) ∧
      path = (dir.join (Utf8.encode file)).text
  /-- A redirection succeeds when the run has a workspace with an entry for the file, and the store was not told to fail. -/
  redirected : ∀ run config pointer file value path,
    s.reported? (.redirect run config pointer file value) = some (path, value) ↔
      run.Reaches config.workspaceSubdir file path ∧ ∀ kind, .failWrites kind ∉ ops
  /-- A contribution delivers to a file when its message may go there, the pointer variable is not taken, and a redirection
  to the file succeeds. -/
  contributed : ∀ c run env path text, s.reported? (.contribute c run env) = some (path, text) ↔
    ∃ e, env = some e ∧ c.message? e = some text ∧ c.config.redirectEnabled = true ∧
      c.isTaken (c.withPlain e) pointerName = false ∧
      run.Reaches c.config.workspaceSubdir messageFileName path ∧ ∀ kind, .failWrites kind ∉ ops
  /-- A store that was told to fail reports nothing any more. -/
  failing : ∀ kind, .failWrites kind ∈ ops → ∀ op, s.reported? op = none
  /-- The size of a file is that of its content. -/
  sized : .hideFiles ∉ ops → ∀ path,
    FileStore.fileSize s path = .ok ((s.contents path).map String.utf8ByteSize)
  hidden : .hideFiles ∈ ops → ∀ path, FileStore.fileSize s path = .ok none
  /-- Values that are sent to one file leave the last one there, and nothing elsewhere. -/
  repeated : ∀ (run : Run) (config : Config) (pointer file path last : String) (values : List String),
    values.getLast? = some last →
    (run.redirect config s pointer file last).value = .ok ⟨pointer, path⟩ →
    let s' := s.run (values.map (.redirect run config pointer file))
    (∀ other, s'.contents other = if other = path then some last else s.contents other) ∧
      s'.writes = s.writes + values.length ∧
      ((∀ other, other ≠ path → s.contents other = none) → s'.fileCount = 1)

/-- **The last write to a path counts,** whatever is done to a store that was empty. -/
theorem lastWriterWins (ops : List Operation) : LastWriterWins ops (empty.run ops) := by
  have hfailure : (empty.run ops).failure = none ↔ ∀ kind, .failWrites kind ∉ ops := by
    rw [failure_run]
    exact and_iff_right rfl
  have hhidden : (empty.run ops).hidden = true ↔ .hideFiles ∈ ops := by
    rw [hidden_run]
    exact or_iff_right nofun
  refine {
    contents := fun path => ?contents
    writes := ?writes
    fileCount := fileCount_run ops
    atomic := fun op => step_of_reported?_eq_none
    accepted := fun dir file content path => ?accepted
    redirected := fun run config pointer file value path => ?redirected
    contributed := fun c run env path text => ?contributed
    failing := fun kind hk op => ?failing
    sized := fun hh path => ?sized
    hidden := fun hh path => ?hidden
    repeated := fun run config pointer file path last values hlast hok => ?repeated }
  case contents =>
    rw [contents_run]
    exact Option.or_none
  case writes =>
    rw [writes_run]
    exact Nat.zero_add _
  case accepted => rw [reported?_write_iff, hfailure]
  case redirected => rw [reported?_redirect_iff, hfailure]
  case contributed => rw [reported?_contribute_iff, hfailure]
  case failing =>
    have hsome : (empty.run ops).failure ≠ none := fun hnone => hfailure.1 hnone kind hk
    obtain ⟨kind', hk'⟩ := Option.ne_none_iff_exists'.1 hsome
    exact reported?_of_failure hk' op
  case sized =>
    have hseen : (empty.run ops).hidden = false := Bool.eq_false_iff.2 fun h => hh (hhidden.1 h)
    simp [FileStore.fileSize, size?, hseen]
  case hidden => simp [FileStore.fileSize, size?, hhidden.2 hh]
  case repeated => exact redirects_leave_last hlast hok

/-- A redirection writes over a file of the same path, a contribution writes another one, and what fails leaves both. -/
theorem lastWriterWins_of_mixed :
    let build : Run := ⟨"build", .direct (some (.ofText "/ws"))⟩
    let c : Contributor := ⟨some (.ofList [(messageName, "hello")]), .empty, .default⟩
    let redirect (value : String) : Operation := .redirect build .default "NOTES" "notes.txt" value
    let before : List Operation := [.write (.ofText "/ws/") "notes.txt" "one"]
    let ops := before ++ [redirect "two", .contribute c build (some ∅), .failWrites .interrupted]
    let s := empty.run ops
    (empty.run before).reported? (redirect "two") = some ("/ws/notes.txt", "two") ∧
      (empty.run before).reported? (.contribute c build (some ∅)) = some ("/ws/.ci_message.txt", "hello") ∧
      s.contents "/ws/notes.txt" = some "two" ∧ s.contents "/ws/.ci_message.txt" = some "hello" ∧
      s.writes = 3 ∧ s.fileCount = 2 ∧ FileStore.fileSize s "/ws/notes.txt" = .ok (some 3) ∧
      s.reported? (redirect "three") = none ∧ s.step (redirect "three") = s := by
  intro build c redirect before ops s
  have hbefore := lastWriterWins before
  have h := lastWriterWins ops
  have hlog : empty.log ops =
      [("/ws/.ci_message.txt", "hello"), ("/ws/notes.txt", "two"), ("/ws/notes.txt", "one")] := by
    decide +kernel
  have hnotes : (Path.ofText "/ws/notes.txt").IsEntry (.ofText "/ws") "notes.txt" :=
    ⟨by decide, by decide, by decide, by decide⟩
  have hmessage : (Path.ofText "/ws/.ci_message.txt").IsEntry (.ofText "/ws") messageFileName :=
    ⟨by decide, by decide, by decide, by decide⟩
  have hcontents : s.contents "/ws/notes.txt" = some "two" := by
    rw [h.contents, hlog]
    decide
  have hnone : s.reported? (redirect "three") = none := h.failing .interrupted (by simp [ops]) _
  refine ⟨?_, ?_, hcontents, ?_, ?_, ?_, ?_, hnone, h.atomic _ rfl hnone⟩
  · exact (hbefore.redirected ..).2 ⟨⟨_, _, .own rfl, hnotes, by decide⟩, by simp [before]⟩
  · refine (hbefore.contributed ..).2 ⟨∅, rfl, by decide, rfl, by decide, ⟨_, _, .own rfl, hmessage, by decide⟩, ?_⟩
    simp [before]
  · rw [h.contents, hlog]
    decide
  · rw [h.writes, hlog]
    rfl
  · rw [h.fileCount, hlog]
    decide
  · rw [h.sized (by simp [ops, before, redirect]), hcontents]
    decide

end MemoryStore

end CiMessage
