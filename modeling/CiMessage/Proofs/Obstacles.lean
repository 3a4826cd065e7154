import CiMessage.Contribution.Json
import CiMessage.Proofs.Containment
import CiMessage.Proofs.EventLog

/-!
# What keeps a message from its file

A message that is to go to a file can meet four obstacles: its pointer variable is taken, the run has no directory, the
workspace of the run has an empty path, or writes are made to fail. `Contributor.Obstructs` says when each of them is in
the way, which cause it is, and which text it is reported as. They come from different places, and any number of them can
be in the way of one message.

They are met in a fixed order (`Obstacle.all`), and a contribution falls back exactly when there is one; the report has
the text of the first (`Contributor.fallback_names_first`). The proof computes the causes (`Contributor.cause?`), of which
the texts are the wordings (`Contributor.obstructs_iff`), and finds a delivery to be a search for the first of them
(`Contributor.delivery?_eq_fallback_iff`).
-/

namespace CiMessage

/-- What can keep a message from its file. -/
inductive Obstacle where
  /-- The pointer variable is taken. -/
  | pointer
  /-- The run has no directory. -/
  | directory
  /-- The path of the workspace is empty. -/
  | path
  /-- Writes fail. -/
  | failure
  deriving DecidableEq

/-- The obstacles in the order in which they are met. -/
def Obstacle.all : List Obstacle := [pointer, directory, path, failure]

/-- The path of the message file in a workspace. -/
def Path.messageFile (dir : Path) : Path := dir.join (Utf8.encode messageFileName)

namespace Contributor

section Obstructs

variable (c : Contributor) (run : Run) (env : Environment) (store : MemoryStore)

/-- An obstacle is in the way of the message for this cause, and is reported as this text. -/
inductive Obstructs : Obstacle → RedirectError → String → Prop
  | pointer (h : c.reserved.contains pointerName = true ∨ (c.withPlain env).isSet pointerName = true) :
    Obstructs .pointer (.pointerUnavailable pointerName)
      ("pointer variable " ++ pointerName ++ " is reserved or already set")
  | noWorkspace (h : run.handle = .direct none) :
    Obstructs .directory (.noWorkspace run.id) ("run " ++ run.id ++ " has no workspace")
  | noRootDir (h : run.handle = .rooted none) :
    Obstructs .directory (.noRootDir run.id) ("run " ++ run.id ++ " has no root directory")
  /-- The path that is shown is the empty one. -/
  | emptyPath {dir : Path} (hw : run.IsWorkspace c.config.workspaceSubdir dir) (he : dir.isEmpty = true) :
    Obstructs .path (.write (.invalidChild dir.text messageFileName))
      ("failed to write message file: cannot create child \"" ++ messageFileName ++ "\" under \"\"")
  | interrupted {dir : Path} (hw : run.IsWorkspace c.config.workspaceSubdir dir)
    (hf : store.failure = some .interrupted) :
    Obstructs .failure (.write (.interrupted dir.messageFile.text))
      ("failed to write message file: interrupted while writing " ++ dir.messageFile.text)
  | failing {dir : Path} {kind : IoError.Kind} (hw : run.IsWorkspace c.config.workspaceSubdir dir)
    (hf : store.failure = some kind) (hk : kind ≠ .interrupted) :
    Obstructs .failure (.write (.io dir.messageFile.text (.ofKind kind)))
      ("failed to write message file: io error at " ++ dir.messageFile.text ++ ": " ++ kind.describe)

/-- An obstacle is in the way for this cause and with this text, and none of those before it is in the way. -/
structure MeetsFirst (o : Obstacle) (cause : RedirectError) (shown : String) : Prop where
  met : c.Obstructs run env store o cause shown
  earlier : ∀ o' ∈ Obstacle.all.takeWhile (· != o), ∀ cause' shown', ¬ c.Obstructs run env store o' cause' shown'

/-- The cause of an obstacle, if it is in the way. -/
def cause? : Obstacle → Option RedirectError
  | .pointer => if c.isTaken (c.withPlain env) pointerName then some (.pointerUnavailable pointerName) else none
  | .directory =>
    match (run.workspace c.config.workspaceSubdir).1 with
    | .error cause => some cause
    | .ok _ => none
  | .path =>
    match (run.workspace c.config.workspaceSubdir).1 with
    | .error _ => none
    | .ok dir => if dir.isEmpty then some (.write (.invalidChild dir.text messageFileName)) else none
  | .failure =>
    match (run.workspace c.config.workspaceSubdir).1 with
    | .error _ => none
    | .ok dir => store.failure.map fun kind => .write (.ofIo dir.messageFile.text (.ofKind kind))

end Obstructs

variable {c : Contributor} {run : Run} {env : Environment} {store : MemoryStore} {cause : RedirectError} {o : Obstacle}
  {shown : String}

/-! ## Texts of obstacles -/

/-- An empty path is shown as the empty text, between quotes like the name of the file. -/
theorem message_invalidChild_of_isEmpty {dir : Path} (he : dir.isEmpty = true) :
    FileError.message (.invalidChild dir.text messageFileName) =
      "cannot create child \"" ++ messageFileName ++ "\" under \"\"" := by
  obtain ⟨bytes⟩ := dir
  obtain rfl : bytes = [] := List.isEmpty_iff.1 he
  decide

/-- **The text of an obstacle** is the wording of its cause. -/
theorem Obstructs.message_eq (h : c.Obstructs run env store o cause shown) : cause.message = shown := by
  unfold RedirectError.message
  cases h with
  | pointer | noWorkspace | noRootDir => rfl
  | emptyPath _ he =>
    dsimp only
    rw [message_invalidChild_of_isEmpty he]
    decide
  | interrupted | failing =>
    unfold FileError.message
    simp only [IoError.ofKind, ← String.append_assoc]
    rfl

/-! ## Causes of obstacles -/

/-- A run has no workspace when its handle has no directory. -/
theorem workspace_eq_error_iff {subdir : String} : (run.workspace subdir).1 = .error cause ↔
    (run.handle = .direct none ∧ cause = .noWorkspace run.id) ∨
      (run.handle = .rooted none ∧ cause = .noRootDir run.id) := by
  obtain ⟨id, handle⟩ := run
  rcases handle with (_ | dir) | (_ | root)
  · simp [Run.workspace, eq_comm]
  · simp [Run.workspace]
  · simp [Run.workspace, eq_comm]
  · dsimp only [Run.workspace]
    cases Workspace.child root subdir <;> simp

/-- The workspace is what is found when something is. -/
theorem workspace_fst_eq_ok_iff {subdir : String} {dir : Path} :
    (run.workspace subdir).1 = .ok dir ↔ run.IsWorkspace subdir dir := by
  rw [← Run.workspace_eq_ok_iff]
  constructor
  · intro h
    exact ⟨_, Prod.ext h rfl⟩
  · rintro ⟨found, h⟩
    rw [h]

theorem isTaken_eq_true_iff {name : String} :
    c.isTaken env name = true ↔ c.reserved.contains name = true ∨ env.isSet name = true := by
  rw [isTaken, Bool.or_eq_true]

/-- A failure of which only the kind is known is an interruption or keeps its kind. -/
theorem ofIo_ofKind_of_ne {path : String} {kind : IoError.Kind} (hk : kind ≠ .interrupted) :
    FileError.ofIo path (.ofKind kind) = .io path (.ofKind kind) := if_neg hk

theorem obstructs_pointer_iff : (∃ shown, c.Obstructs run env store .pointer cause shown) ↔
    c.isTaken (c.withPlain env) pointerName = true ∧ .pointerUnavailable pointerName = cause := by
  constructor
  · rintro ⟨shown, ⟨h⟩⟩
    exact ⟨isTaken_eq_true_iff.2 h, rfl⟩
  · rintro ⟨h, rfl⟩
    exact ⟨_, .pointer (isTaken_eq_true_iff.1 h)⟩

theorem obstructs_directory_iff : (∃ shown, c.Obstructs run env store .directory cause shown) ↔
    (run.workspace c.config.workspaceSubdir).1 = .error cause := by
  rw [workspace_eq_error_iff]
  constructor
  · rintro ⟨shown, h⟩
    cases h with
    | noWorkspace h => exact .inl ⟨h, rfl⟩
    | noRootDir h => exact .inr ⟨h, rfl⟩
  · rintro (⟨h, rfl⟩ | ⟨h, rfl⟩)
    · exact ⟨_, .noWorkspace h⟩
    · exact ⟨_, .noRootDir h⟩

theorem obstructs_path_iff : (∃ shown, c.Obstructs run env store .path cause shown) ↔
    ∃ dir, (run.workspace c.config.workspaceSubdir).1 = .ok dir ∧ dir.isEmpty = true ∧
      .write (.invalidChild dir.text messageFileName) = cause := by
  simp only [workspace_fst_eq_ok_iff]
  constructor
  · rintro ⟨shown, h⟩
    cases h with
    | emptyPath hw he => exact ⟨_, hw, he, rfl⟩
  · rintro ⟨dir, hw, he, rfl⟩
    exact ⟨_, .emptyPath hw he⟩

theorem obstructs_failure_iff : (∃ shown, c.Obstructs run env store .failure cause shown) ↔
    ∃ dir kind, (run.workspace c.config.workspaceSubdir).1 = .ok dir ∧ store.failure = some kind ∧
      .write (.ofIo dir.messageFile.text (.ofKind kind)) = cause := by
  simp only [workspace_fst_eq_ok_iff]
  constructor
  · rintro ⟨shown, h⟩
    cases h with
    | interrupted hw hf => exact ⟨_, _, hw, hf, rfl⟩
    | failing hw hf hk => exact ⟨_, _, hw, hf, by rw [ofIo_ofKind_of_ne hk]⟩
  · rintro ⟨dir, kind, hw, hf, rfl⟩
    by_cases hk : kind = .interrupted
    · subst hk
      exact ⟨_, .interrupted hw hf⟩
    · rw [ofIo_ofKind_of_ne hk]
      exact ⟨_, .failing hw hf hk⟩

theorem exists_obstructs_iff :
    (∃ shown, c.Obstructs run env store o cause shown) ↔ c.cause? run env store o = some cause := by
  cases o with
  | pointer => rw [obstructs_pointer_iff, cause?, Option.ite_none_right_eq_some, Option.some.injEq]
  | directory =>
    rw [obstructs_directory_iff, cause?]
    cases (run.workspace c.config.workspaceSubdir).1 <;> simp
  | path =>
    rw [obstructs_path_iff, cause?]
    cases (run.workspace c.config.workspaceSubdir).1 <;> simp
  | failure =>
    rw [obstructs_failure_iff, cause?]
    cases (run.workspace c.config.workspaceSubdir).1 <;> simp

/-- **The cause of an obstacle** is computed, and its text is the wording. -/
theorem obstructs_iff :
    c.Obstructs run env store o cause shown ↔ c.cause? run env store o = some cause ∧ cause.message = shown := by
  constructor
  · intro h
    exact ⟨exists_obstructs_iff.1 ⟨_, h⟩, h.message_eq⟩
  · rintro ⟨hcause, rfl⟩
    obtain ⟨shown, h⟩ := exists_obstructs_iff.2 hcause
    rwa [h.message_eq]

/-- An obstacle is not in the way when no cause is computed for it. -/
theorem not_obstructs_iff :
    (∀ cause shown, ¬ c.Obstructs run env store o cause shown) ↔ c.cause? run env store o = none := by
  simp only [← not_exists, exists_obstructs_iff, Option.eq_none_iff_forall_ne_some]

/-- **The first obstacle** is found by a search for a cause. -/
theorem exists_meetsFirst_iff : (∃ o, c.MeetsFirst run env store o cause shown) ↔
    Obstacle.all.findSome? (c.cause? run env store) = some cause ∧ cause.message = shown := by
  rw [List.findSome?_eq_some_iff]
  constructor
  · rintro ⟨o, hmet, hearlier⟩
    obtain ⟨hcause, hshown⟩ := obstructs_iff.1 hmet
    refine ⟨⟨Obstacle.all.takeWhile (· != o), o, (Obstacle.all.dropWhile (· != o)).tail, ?_, hcause,
      fun o' ho' => not_obstructs_iff.1 (hearlier o' ho')⟩, hshown⟩
    cases o <;> rfl
  · rintro ⟨⟨before, o, after, hall, hcause, hnone⟩, hshown⟩
    refine ⟨o, obstructs_iff.2 ⟨hcause, hshown⟩, fun o' ho' => not_obstructs_iff.2 (hnone o' ?_)⟩
    -- what is taken ends at the obstacle at the latest
    rw [hall, List.takeWhile_append] at ho'
    split at ho'
    · simpa using ho'
    · exact (List.takeWhile_prefix _).mem ho'

/-! ## Deliveries -/

/-- **A delivery falls back** when a search for a cause finds one. -/
theorem delivery?_eq_fallback_iff : c.delivery? env run store = some (.fallback cause) ↔
    (∃ text, c.message? env = some text) ∧ c.config.redirectEnabled = true ∧
      Obstacle.all.findSome? (c.cause? run env store) = some cause := by
  rw [delivery?]
  cases c.message? env with
  | none => simp
  | some text =>
    unfold route Run.destination
    cases c.config.redirectEnabled with
    | false => simp
    | true =>
      simp only [Obstacle.all, List.findSome?_cons, List.findSome?_nil, cause?]
      cases c.isTaken (c.withPlain env) pointerName with
      | true => simp
      | false =>
        cases (run.workspace c.config.workspaceSubdir).1 with
        | error e => simp
        | ok dir =>
          simp only [Run.child_messageFileName]
          cases dir.isEmpty with
          | true => simp
          | false => cases store.failure <;> simp [Path.messageFile]

/-- **A contribution falls back to the variable when there is an obstacle, and names the first one.** The message falls back
for the cause of this obstacle, and the report has its text, which tells the kind of a failure too. -/
theorem fallback_names_first (c : Contributor) (run : Run) (env : Environment) (store : MemoryStore) :
    let out := c.contribute run (some env) store
    let sent := (∃ text, c.message? env = some text) ∧ c.config.redirectEnabled = true
    (∀ cause, out.report.message = some (.fallback cause) ↔
      sent ∧ ∃ o shown, c.MeetsFirst run env store o cause shown) ∧
    (∀ shown, out.report.message.map Delivery.toJson =
        some (.object [("mode", .string "fallback"), ("cause", .string shown)]) ↔
      sent ∧ ∃ o cause, c.MeetsFirst run env store o cause shown) ∧
    ∀ kind kind' : IoError.Kind, kind.describe = kind'.describe ↔ kind = kind' := by
  intro out sent
  have hcause : ∀ cause, out.report.message = some (.fallback cause) ↔
      sent ∧ Obstacle.all.findSome? (c.cause? run env store) = some cause := by
    intro cause
    rw [report_message, delivery?_eq_fallback_iff, and_assoc]
  refine ⟨fun cause => ?_, fun shown => ?_, fun kind kind' => IoError.Kind.describe_inj⟩
  · rw [hcause, exists_comm]
    simp only [exists_meetsFirst_iff, exists_and_left, exists_eq', and_true]
  · rw [Report.shows_fallback_iff, exists_comm]
    simp only [hcause, exists_meetsFirst_iff, and_assoc, exists_and_left]

/-- Under a root without a path an interruption is in the way too, but the path comes before it, and a reserved pointer
variable before both. A run that has no root is told by its name. In a workspace with a path an interruption is reported as
one, and any other failure by its kind. -/
theorem fallback_names_first_under_empty_root :
    let params : SortedMap String String := .ofList [(messageName, "hello")]
    let c : Contributor := ⟨some params, .empty, .default⟩
    let guarded : Contributor := ⟨some params, .ofList [pointerName], .default⟩
    let run : Run := ⟨"pipeline", .rooted (some (.ofText ""))⟩
    let rootless : Run := ⟨"pipeline", .rooted none⟩
    let build : Run := ⟨"build", .direct (some (.ofText "/ws"))⟩
    let store := MemoryStore.empty.failWrites .interrupted
    let denied := MemoryStore.empty.failWrites .permissionDenied
    let tells (r : Report) (text : String) : Prop :=
      r.message.map Delivery.toJson = some (.object [("mode", .string "fallback"), ("cause", .string text)])
    c.Obstructs run ∅ store .failure (.write (.interrupted ".ci_message.txt"))
        "failed to write message file: interrupted while writing .ci_message.txt" ∧
      (c.contribute run (some ∅) store).report.message =
        some (.fallback (.write (.invalidChild "" ".ci_message.txt"))) ∧
      tells (c.contribute run (some ∅) store).report
        "failed to write message file: cannot create child \".ci_message.txt\" under \"\"" ∧
      (guarded.contribute run (some ∅) store).report.message =
        some (.fallback (.pointerUnavailable "CI_MESSAGE_FILE")) ∧
      tells (guarded.contribute run (some ∅) store).report
        "pointer variable CI_MESSAGE_FILE is reserved or already set" ∧
      tells (c.contribute rootless (some ∅) store).report "run pipeline has no root directory" ∧
      tells (c.contribute build (some ∅) store).report
        "failed to write message file: interrupted while writing /ws/.ci_message.txt" ∧
      tells (c.contribute build (some ∅) denied).report
        "failed to write message file: io error at /ws/.ci_message.txt: permission denied" := by
  intro params c guarded run rootless build store denied tells
  have hw : run.IsWorkspace c.config.workspaceSubdir (.ofText "") := .root rfl (by decide)
  have hbuild : build.IsWorkspace c.config.workspaceSubdir (.ofText "/ws") := .own rfl
  have hpath : c.MeetsFirst run ∅ store .path (.write (.invalidChild "" ".ci_message.txt"))
      "failed to write message file: cannot create child \".ci_message.txt\" under \"\"" :=
    ⟨.emptyPath hw (by decide), fun o ho => not_obstructs_iff.2 (by revert o; decide)⟩
  have hpointer : guarded.MeetsFirst run ∅ store .pointer (.pointerUnavailable "CI_MESSAGE_FILE")
      "pointer variable CI_MESSAGE_FILE is reserved or already set" :=
    ⟨.pointer (by decide), fun o ho => nomatch ho⟩
  have hdirectory : c.MeetsFirst rootless ∅ store .directory (.noRootDir "pipeline")
      "run pipeline has no root directory" :=
    ⟨.noRootDir rfl, fun o ho => not_obstructs_iff.2 (by revert o; decide)⟩
  have hinterrupted : c.MeetsFirst build ∅ store .failure (.write (.interrupted "/ws/.ci_message.txt"))
      "failed to write message file: interrupted while writing /ws/.ci_message.txt" :=
    ⟨.interrupted hbuild rfl, fun o ho => not_obstructs_iff.2 (by revert o; decide)⟩
  have hdenied : c.MeetsFirst build ∅ denied .failure
      (.write (.io "/ws/.ci_message.txt" (.ofKind .permissionDenied)))
      "failed to write message file: io error at /ws/.ci_message.txt: permission denied" :=
    ⟨.failing hbuild rfl (by decide), fun o ho => not_obstructs_iff.2 (by revert o; decide)⟩
  have hsent : (∃ text, c.message? ∅ = some text) ∧ c.config.redirectEnabled = true := ⟨⟨"hello", by decide⟩, rfl⟩
  have hsent' : (∃ text, guarded.message? ∅ = some text) ∧ guarded.config.redirectEnabled = true :=
    ⟨⟨"hello", by decide⟩, rfl⟩
  obtain ⟨hcause, htext, -⟩ := fallback_names_first c run ∅ store
  obtain ⟨hcause', htext', -⟩ := fallback_names_first guarded run ∅ store
  refine ⟨.interrupted hw rfl, (hcause _).2 ⟨hsent, _, _, hpath⟩, (htext _).2 ⟨hsent, _, _, hpath⟩,
    (hcause' _).2 ⟨hsent', _, _, hpointer⟩, (htext' _).2 ⟨hsent', _, _, hpointer⟩, ?_, ?_, ?_⟩
  · exact ((fallback_names_first c rootless ∅ store).2.1 _).2 ⟨hsent, _, _, hdirectory⟩
  · exact ((fallback_names_first c build ∅ store).2.1 _).2 ⟨hsent, _, _, hinterrupted⟩
  · exact ((fallback_names_first c build ∅ denied).2.1 _).2 ⟨hsent, _, _, hdenied⟩

end Contributor

end CiMessage
