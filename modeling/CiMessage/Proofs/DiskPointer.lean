import CiMessage.Proofs.DiskFiles
import CiMessage.Proofs.Dispatch
import CiMessage.Proofs.Utf8
import CiMessage.Store.Disk

/-!
# The pointer to a file on disk

On disk a message is written under a path, which is a byte string, and the pointer variable holds the text that shows this
path. Both are the same bytes exactly when the directory of the run is spelled by a text (`pointer_exact_iff`); then the
message is read back under the value of the pointer variable. Beside a directory that is no text the pointer names another
path, at which there may be nothing (`pointer_misses_undecodable_directory`).
-/

namespace CiMessage

/-! ## Paths that are texts -/

namespace Path

/-- Is the path spelled by a text? -/
def IsText (p : Path) : Prop := ∃ s, p = .ofText s

/-- A path is spelled by the text that shows it when it is spelled by any. -/
theorem ofText_text_iff {p : Path} : ofText p.text = p ↔ p.IsText := by
  obtain ⟨bytes⟩ := p
  simp only [ofText, text, IsText, Path.mk.injEq]
  exact Utf8.encode_decodeLossy_iff

/-- An entry with a text for its name is spelled by a text when its directory is. -/
theorem isText_join {p : Path} (name : String) : (p.join (Utf8.encode name)).IsText ↔ p.IsText := by
  have happend : ∀ tail : String, IsText ⟨p.bytes ++ Utf8.encode tail⟩ ↔ p.IsText := by
    intro tail
    obtain ⟨bytes⟩ := p
    simp only [IsText, ofText, Path.mk.injEq]
    constructor
    · rintro ⟨s, hs⟩
      exact Utf8.exists_encode_of_append hs
    · rintro ⟨s, rfl⟩
      exact ⟨s ++ tail, (Utf8.encode_append s tail).symm⟩
  have hslash : slash :: Utf8.encode name = Utf8.encode ("/" ++ name) := by
    rw [Utf8.encode_append]
    rfl
  unfold join
  split
  · exact happend name
  · rw [hslash]
    exact happend ("/" ++ name)

end Path

/-- The workspace of a run is spelled by a text when the directory of its handle is. -/
theorem Run.isText_workspace {run : Run} {subdir : String} {ws : Path} {found : List Event}
    (h : run.workspace subdir = (.ok ws, found)) :
    ∃ dir, run.handle.dir = some dir ∧ (ws.IsText ↔ dir.IsText) := by
  obtain ⟨id, (_ | dir) | (_ | root)⟩ := run
  · cases h
  · cases h
    exact ⟨ws, rfl, Iff.rfl⟩
  · cases h
  · refine ⟨root, rfl, ?_⟩
    simp only [workspace] at h
    cases hc : Workspace.child root subdir with
    | error e =>
      rw [hc] at h
      cases h
      exact Iff.rfl
    | ok child =>
      rw [hc] at h
      cases h
      rw [(Workspace.child_eq_ok hc).2]
      exact Path.isText_join subdir

/-! ## Writes to disk -/

namespace Disk

/-- A file of a directory is written under its path: the directory is made where it is not there, and then the file. -/
structure Writes (d : Disk) (dir : Path) (file content : String) (target : Path) (d' : Disk) : Prop where
  child : Workspace.child dir file = .ok target
  written : ∃ made, d.makeDirectories dir = (made, none) ∧ made.write target content.toUTF8 = .ok d'

/-- The store on disk writes a file when its directory is there or can be made, and its path can be written to. -/
theorem writeText_eq_ok_iff {d d' : Disk} {dir : Path} {file content path : String} :
    (∃ told, FileStore.writeText d dir file content = ⟨.ok path, d', told⟩) ↔
    ∃ target, d.Writes dir file content target d' ∧ path = target.text := by
  simp only [FileStore.writeText, writeText]
  constructor
  · rintro ⟨told, h⟩
    cases hc : Workspace.child dir file with
    | error e =>
      simp only [hc] at h
      cases h
    | ok target =>
      rcases hm : d.makeDirectories dir with ⟨made, _ | fault⟩
      · cases hw : made.write target content.toUTF8 with
        | error fault =>
          simp only [hc, hm, hw] at h
          cases h
        | ok d'' =>
          simp only [hc, hm, hw] at h
          cases h
          exact ⟨target, ⟨hc, made, hm, hw⟩, rfl⟩
      · simp only [hc, hm] at h
        cases h
  · rintro ⟨target, ⟨hc, made, hm, hw⟩, rfl⟩
    simp only [hc, hm, hw]
    exact ⟨_, rfl⟩

end Disk

/-! ## Messages on disk -/

namespace Contributor

/-- A contribution put the message into a file on disk: the file was written under this path, it holds the message unless
the path leads to a device that keeps nothing, and the pointer variable shows the path. -/
structure FiledAt (c : Contributor) (run : Run) (disk : Disk) (out : Contribution Disk) (target : Path)
    (text : String) : Prop where
  message : c.value? messageName = some text
  written : ∃ dir found, run.workspace c.config.workspaceSubdir = (.ok dir, found) ∧
    disk.Writes dir messageFileName text target out.store
  content : out.store.read target = .ok text.toUTF8 ∨ out.store.LeadsToSink target
  pointer : out.get? pointerName = some target.text

/-- A message that may go to a file is delivered there when the file is written. -/
theorem report_of_writes {c : Contributor} {run : Run} {env : Environment} {disk disk' : Disk} {dir target : Path}
    {found : List Event} {text : String} (hm : c.message? env = some text) (hr : c.config.redirectEnabled = true)
    (ht : c.isTaken (c.withPlain env) pointerName = false)
    (hw : run.workspace c.config.workspaceSubdir = (.ok dir, found))
    (hwrites : disk.Writes dir messageFileName text target disk') :
    (c.contribute run (some env) disk).report.message = some (.file target.text) ∧
      (c.contribute run (some env) disk).store = disk' := by
  obtain ⟨told, hwrite⟩ := Disk.writeText_eq_ok_iff.2 ⟨target, hwrites, rfl⟩
  exact report_file_iff.2 ⟨text, dir, found, told, hm, hr, ht, hw, hwrite⟩

/-- A message that was delivered to a file is filed under a path that the delivery shows. -/
theorem filedAt_of_report {c : Contributor} {run : Run} {env : Environment} {disk : Disk} {path : String}
    (h : (c.contribute run (some env) disk).report.message = some (.file path)) :
    ∃ text target, c.FiledAt run disk (c.contribute run (some env) disk) target text ∧ path = target.text := by
  obtain ⟨text, dir, found, told, hm, hr, ht, hw, hwrite⟩ := report_file_iff.1 ⟨h, rfl⟩
  obtain ⟨target, hwrites, rfl⟩ := Disk.writeText_eq_ok_iff.1 ⟨told, hwrite⟩
  obtain ⟨made, -, hfile⟩ := hwrites.written
  refine ⟨text, target, ⟨(message?_eq_some_iff.1 hm).2.2, ⟨dir, found, hw, hwrites⟩, Disk.read_write hfile, ?_⟩, rfl⟩
  have hend := c.concludes run env disk
  rw [contribute_eq] at h ⊢
  generalize c.conclude run env disk = out at h hend ⊢
  cases hend with
  | filed =>
    cases h
    simp [Contribution.get?]
  | silent | direct | guarded | failed => cases h

/-- **The pointer to a file on disk** is the path of the file exactly when the directory of the run is spelled by a text.
Then the message is read back under the value of the pointer variable. -/
theorem pointer_exact_iff {c : Contributor} {run : Run} {env : Environment} {disk : Disk} {path : String}
    (h : (c.contribute run (some env) disk).report.message = some (.file path)) :
    let out := c.contribute run (some env) disk
    ∃ dir text target, run.handle.dir = some dir ∧ c.FiledAt run disk out target text ∧
      out.get? pointerName = some path ∧ (Path.ofText path = target ↔ dir.IsText) ∧
      (dir.IsText → out.store.read (.ofText path) = .ok text.toUTF8 ∨ out.store.LeadsToSink (.ofText path)) := by
  obtain ⟨text, target, hfiled, rfl⟩ := filedAt_of_report h
  obtain ⟨ws, found, hw, hwrites⟩ := hfiled.written
  obtain ⟨dir, hdir, htext⟩ := Run.isText_workspace hw
  have hexact : Path.ofText target.text = target ↔ dir.IsText := by
    rw [Path.ofText_text_iff, (Workspace.child_eq_ok hwrites.child).2, Path.isText_join, htext]
  refine ⟨dir, text, target, hdir, hfiled, hfiled.pointer, hexact, fun ht => ?_⟩
  rw [hexact.2 ht]
  exact hfiled.content

/-- Under a directory that is a text, the message is read back under the value of the pointer variable. -/
theorem pointer_exact_under_workspace :
    let c : Contributor := ⟨some (.ofList [(messageName, "hello")]), .empty, .default⟩
    let build : Run := ⟨"build", .direct (some (.ofText "/ws"))⟩
    let out := c.contribute build (some ∅) (Disk.ofWorkingDirectory [])
    out.report.message = some (.file "/ws/.ci_message.txt") ∧ out.get? pointerName = some "/ws/.ci_message.txt" ∧
      ∃ target text, c.FiledAt build (Disk.ofWorkingDirectory []) out target text ∧
        Path.ofText "/ws/.ci_message.txt" = target := by
  intro c build out
  let made := (Disk.ofWorkingDirectory []).put [Utf8.encode "ws"] .directory
  let written := made.put [Utf8.encode "ws", Utf8.encode messageFileName] (.file "hello".toUTF8)
  let target := (Path.ofText "/ws").join (Utf8.encode messageFileName)
  have hfree : (Disk.ofWorkingDirectory []).find .itself (.ofText "/ws") = .ok (.free [] (Utf8.encode "ws")) := by
    have hnames : Disk.names (.ofText "/ws") = [Utf8.encode "ws"] := by decide
    rw [Disk.find_eq_walk (by decide) (by decide) (by decide), hnames]
    exact Disk.walk_free (by decide) (by decide) (by decide) rfl
  have hplace : made.find .created target = .ok (.free [Utf8.encode "ws"] (Utf8.encode messageFileName)) := by
    have hnames : Disk.names target = [Utf8.encode "ws", Utf8.encode messageFileName] := by decide
    rw [Disk.find_eq_walk (by decide) (by decide) (by decide), hnames,
      Disk.walk_directory (by decide) (by decide) (by decide) (by decide) rfl]
    exact Disk.walk_free (by decide) (by decide) (by decide) rfl
  have hshown : target.text = "/ws/.ci_message.txt" := by decide +kernel
  have hwrites : (Disk.ofWorkingDirectory []).Writes (.ofText "/ws") messageFileName "hello" target written :=
    ⟨rfl, made, Disk.makeDirectories_of_free hfree, Disk.write_of_free hplace⟩
  have hreport : out.report.message = some (.file target.text) :=
    (report_of_writes (by decide) rfl (by decide) rfl hwrites).1
  rw [hshown] at hreport
  obtain ⟨dir, text, target, hdir, hfiled, hpointer, hexact, -⟩ := pointer_exact_iff hreport
  cases hdir
  exact ⟨hreport, hpointer, target, text, hfiled, hexact.2 ⟨_, rfl⟩⟩

/-- Beside a directory that is no text, the pointer names a path at which there is nothing. -/
theorem pointer_misses_undecodable_directory :
    let c : Contributor := ⟨some (.ofList [(messageName, "hello")]), .empty, .default⟩
    let dir : Path := ⟨[0x66, 0xFF]⟩
    let out := c.contribute ⟨"build", .direct (some dir)⟩ (some ∅) (Disk.ofWorkingDirectory [])
    out.report.message = some (.file "f\uFFFD/.ci_message.txt") ∧
      out.store.read (dir.join (Utf8.encode messageFileName)) = .ok "hello".toUTF8 ∧
      out.store.read (.ofText "f\uFFFD/.ci_message.txt") = .error .noEntry := by
  intro c dir out
  let made := (Disk.ofWorkingDirectory []).put [[0x66, 0xFF]] .directory
  let written := made.put [[0x66, 0xFF], Utf8.encode messageFileName] (.file "hello".toUTF8)
  let target := dir.join (Utf8.encode messageFileName)
  have hnames : Disk.names target = [[0x66, 0xFF], Utf8.encode messageFileName] := by decide
  have hfree : (Disk.ofWorkingDirectory []).find .itself dir = .ok (.free [] [0x66, 0xFF]) := by
    have hname : Disk.names dir = [[0x66, 0xFF]] := by decide
    rw [Disk.find_eq_walk (by decide) (by decide) (by decide), hname]
    exact Disk.walk_free (by decide) (by decide) (by decide) rfl
  have hplace : made.find .created target = .ok (.free [[0x66, 0xFF]] (Utf8.encode messageFileName)) := by
    rw [Disk.find_eq_walk (by decide) (by decide) (by decide), hnames,
      Disk.walk_directory (by decide) (by decide) (by decide) (by decide) rfl]
    exact Disk.walk_free (by decide) (by decide) (by decide) rfl
  have hshown : target.text = "f\uFFFD/.ci_message.txt" := by decide +kernel
  have hwrites : (Disk.ofWorkingDirectory []).Writes dir messageFileName "hello" target written :=
    ⟨rfl, made, Disk.makeDirectories_of_free hfree, Disk.write_of_free hplace⟩
  have hout : out.report.message = some (.file target.text) ∧ out.store = written :=
    report_of_writes (by decide) rfl (by decide) rfl hwrites
  rw [hshown] at hout
  have hfound : written.find .followed target =
      .ok (.taken [[0x66, 0xFF], Utf8.encode messageFileName] (.file "hello".toUTF8)) := by
    rw [Disk.find_eq_walk (by decide) (by decide) (by decide), hnames,
      Disk.walk_directory (by decide) (by decide) (by decide) (by decide) rfl]
    exact Disk.walk_last (by decide) (by decide) (by decide) rfl fun h => h
  have hmissing : written.find .followed (.ofText "f\uFFFD/.ci_message.txt") = .error .noEntry := by
    have hshownNames : Disk.names (.ofText "f\uFFFD/.ci_message.txt") =
        [Utf8.encode "f\uFFFD", Utf8.encode messageFileName] := by
      decide
    rw [Disk.find_eq_walk (by decide) (by decide) (by decide), hshownNames]
    exact Disk.walk_missing (by decide) (by decide) (by decide) (by decide) rfl
  refine ⟨hout.1, ?_, ?_⟩
  · rw [hout.2, Disk.read, hfound]
  · rw [hout.2, Disk.read, hmissing]

end Contributor

end CiMessage
