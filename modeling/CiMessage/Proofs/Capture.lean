import CiMessage.Environment.Raw
import CiMessage.Proofs.Reporting
import CiMessage.Proofs.Undecodable
import CiMessage.Store.Memory

/-!
# The captured environment

The variables of a process have byte strings for names and values. Captured, each name and value is the text that shows
it; different names may be shown alike, and then the last variable counts. `Captures` says this of an environment, and
`Environment.Raw.captures_capture` that `capture` makes one.

So every variable of the process is set in the captured environment, under the text that shows its name. A contribution
leaves out what is set (`Contributor.skipped_of_isSet`) and any number of them keep its value (`Environment.kept_after`):
no variable of the process is lost or overwritten, whatever its bytes (`Environment.Raw.capture_keeps_names`).
-/

namespace CiMessage

open Utf8 (Shows)

/-! ## What is set stays -/

section Contributions

variable {σ : Type} [FileStore σ] {env : Environment} {name value : String}

/-- A contribution leaves out a variable of the message that is set. -/
theorem Contributor.skipped_of_isSet {c : Contributor} (run : Run) (store : σ) (hset : env.isSet name = true)
    (hv : (c.value? name).isSome = true) :
    name ∈ (c.contribute run (some env) store).report.skippedNames ∧
      name ∉ (c.contribute run (some env) store).report.injected := by
  have haccounts := c.accounts env run store
  constructor
  · obtain ⟨reason, hreason⟩ : ∃ reason, (name, reason) ∈ (c.contribute run (some env) store).report.skipped := by
      cases hr : c.reserved.contains name with
      | true => exact ⟨.reserved, (haccounts.skipped ..).2 ⟨hv, .inl ⟨hr, rfl⟩⟩⟩
      | false => exact ⟨.alreadySet, (haccounts.skipped ..).2 ⟨hv, .inr ⟨hr, hset, rfl⟩⟩⟩
    exact List.mem_map.2 ⟨_, hreason, rfl⟩
  · intro hinjected
    rw [(haccounts.separate name hinjected).2.2] at hset
    cases hset

/-- The environment after contributions by any contributors to any runs, one after the other. -/
def Environment.after (env : Environment) (passes : List (Contributor × Run × σ)) : Environment :=
  passes.foldl (fun env pass => (pass.1.contribute pass.2.1 (some env) pass.2.2).env.getD env) env

/-- A variable that is set keeps its value through any contributions. -/
theorem Environment.kept_after (passes : List (Contributor × Run × σ)) (h : env.get? name = some value) :
    (env.after passes).get? name = some value := by
  induction passes generalizing env with
  | nil => exact h
  | cons pass rest ih =>
    have hpass := pass.1.kept_contribute pass.2.1 pass.2.2 h
    rw [after, List.foldl_cons]
    exact ih (Contribution.get?_getD hpass env)

end Contributions

namespace Environment.Raw

/-- What an environment has of the variables of a process. -/
structure Captures (raw : Raw) (env : Environment) : Prop where
  /-- The names are the texts that show the names of variables. -/
  names : ∀ name, name ∈ env.keys ↔ ∃ v ∈ raw.entries, Shows v.1 name.toList
  /-- A name has the text that shows the value of the last variable with this name. -/
  values : ∀ name value, env.get? name = some value ↔ ∃ before v after, raw.entries = before ++ v :: after ∧
    Shows v.1 name.toList ∧ Shows v.2 value.toList ∧ ∀ w ∈ after, ¬ Shows w.1 name.toList
  /-- The names come in the order of their bytes, none of them twice. -/
  ascending : env.keys.Pairwise fun a b => Utf8.encode a < Utf8.encode b

variable {raw : Raw} {name value : String}

theorem mem_keys_capture : name ∈ raw.capture.keys ↔ ∃ v ∈ raw.entries, Shows v.1 name.toList := by
  rw [SortedMap.mem_keys_iff, capture, SortedMap.contains_ofList, List.map_map, List.mem_map]
  simp only [Utf8.shows_iff, Function.comp]

theorem get?_capture_eq_some_iff : raw.capture.get? name = some value ↔
    ∃ before v after, raw.entries = before ++ v :: after ∧
      Shows v.1 name.toList ∧ Shows v.2 value.toList ∧ ∀ w ∈ after, ¬ Shows w.1 name.toList := by
  simp only [Utf8.shows_iff]
  rw [capture, SortedMap.get?_ofList_eq_some_iff]
  constructor
  · rintro ⟨_, _, hentries, hafter⟩
    obtain ⟨before, _, hl, rfl, hrest⟩ := List.map_eq_append_iff.1 hentries
    obtain ⟨v, after, rfl, hv, rfl⟩ := List.map_eq_cons_iff.1 hrest
    obtain ⟨hname, hvalue⟩ := Prod.mk.inj hv
    exact ⟨before, v, after, hl, hname, hvalue, fun w hw => hafter _ (List.mem_map_of_mem hw)⟩
  · rintro ⟨before, v, after, hl, hname, hvalue, hafter⟩
    refine ⟨_, _, by rw [hl, List.map_append, List.map_cons, hname, hvalue], fun e he => ?_⟩
    obtain ⟨w, hw, rfl⟩ := List.mem_map.1 he
    exact hafter w hw

/-- **The captured environment** has the variables of the process. -/
theorem captures_capture (raw : Raw) : raw.Captures raw.capture where
  names _ := mem_keys_capture
  values _ _ := get?_capture_eq_some_iff
  ascending := raw.capture.pairwise_encode_keys

/-- Every variable is set under the text that shows its name. -/
theorem isSet_capture {v : List UInt8 × List UInt8} (hv : v ∈ raw.entries) (hname : Shows v.1 name.toList) :
    raw.capture.isSet name = true :=
  SortedMap.mem_keys_iff.1 (mem_keys_capture.2 ⟨v, hv, hname⟩)

/-- **No variable of a process is lost.** What is captured has a name for each variable, the one text that shows the bytes
of its name, and this is the name itself if that is a text. Under a name stands the value of the last variable that is shown
so. No contribution to what was captured, nor to what other contributions made of it, sets such a name: it is left out if
it is one of the message, and it keeps its value. -/
theorem capture_keeps_names {σ : Type} [FileStore σ] (raw : Raw) :
    raw.Captures raw.capture ∧
      (∀ bytes, ∃! t : String, Shows bytes t.toList) ∧
      (∀ s t : String, Shows (Utf8.encode s) t.toList ↔ t = s) ∧
      (∀ before name bytes after, raw.entries = before ++ (Utf8.encode name, bytes) :: after →
        raw.capture.isSet name = true ∧
        ∀ value, bytes = Utf8.encode value → (∀ w ∈ after, ¬ Shows w.1 name.toList) →
          raw.capture.get? name = some value) ∧
      ∀ v ∈ raw.entries, ∀ name, Shows v.1 name.toList →
        ∀ (passes : List (Contributor × Run × σ)) (c : Contributor) (run : Run) (store : σ),
          let out := c.contribute run (some (raw.capture.after passes)) store
          out.get? name = raw.capture.get? name ∧
            ((c.value? name).isSome = true → name ∈ out.report.skippedNames ∧ name ∉ out.report.injected) := by
  have hself : ∀ s t : String, Shows (Utf8.encode s) t.toList ↔ t = s := by
    intro s t
    rw [Utf8.shows_iff, Utf8.decodeLossy_encode, eq_comm]
  refine ⟨raw.captures_capture, Utf8.existsUnique_shows, hself, ?_, ?_⟩
  · rintro before name bytes after hentries
    have hmem : (Utf8.encode name, bytes) ∈ raw.entries := by simp [hentries]
    refine ⟨isSet_capture hmem ((hself ..).2 rfl), ?_⟩
    rintro value rfl hafter
    exact get?_capture_eq_some_iff.2 ⟨before, _, after, hentries, (hself ..).2 rfl, (hself ..).2 rfl, hafter⟩
  · intro v hv name hname passes c run store out
    obtain ⟨value, hvalue⟩ := Option.isSome_iff_exists.1 (isSet_capture hv hname)
    have hkept := Environment.kept_after passes hvalue
    refine ⟨?_, c.skipped_of_isSet run store (Environment.isSet_of_get? hkept)⟩
    rw [c.kept_contribute run store hkept]
    exact hvalue.symm

/-- A variable whose name is no text and one with a name that is shown alike: the last one counts, its value with one U+FFFD
for two bytes, and neither an earlier contribution nor a later one sets it. -/
theorem capture_keeps_names_shown_alike :
    let raw : Raw := ⟨[(Utf8.encode "HOME", Utf8.encode "/root"), ([0x58, 0xFF], Utf8.encode "1"),
      (Utf8.encode "X\uFFFD", [0x32, 0xE2, 0x82])]⟩
    let c : Contributor := ⟨some (.ofList [("X\uFFFD", "3"), ("CI_TOPIC", "builds")]), .empty, .default⟩
    let run : Run := ⟨"build", .direct (some (.ofText "/ws"))⟩
    let out := c.contribute run (some (raw.capture.after [(c, run, MemoryStore.empty)])) MemoryStore.empty
    Shows [0x58, 0xFF] "X\uFFFD".toList ∧ raw.capture.keys = ["HOME", "X\uFFFD"] ∧
      raw.capture.get? "HOME" = some "/root" ∧ raw.capture.get? "X\uFFFD" = some "2\uFFFD" ∧
      out.get? "X\uFFFD" = some "2\uFFFD" ∧ "X\uFFFD" ∈ out.report.skippedNames ∧
      "X\uFFFD" ∉ out.report.injected := by
  intro raw c run out
  obtain ⟨hcaptured, -, -, hown, hcontributed⟩ := capture_keeps_names (σ := MemoryStore) raw
  have hshown : Shows [0x58, 0xFF] "X\uFFFD".toList := Utf8.shows_iff.2 (by decide)
  have hnames : Shows (Utf8.encode "X\uFFFD") "X\uFFFD".toList := Utf8.shows_iff.2 (by decide)
  have hvalue : Shows [0x32, 0xE2, 0x82] "2\uFFFD".toList := Utf8.shows_iff.2 (by decide)
  have hhome : raw.capture.get? "HOME" = some "/root" := by
    refine (hown [] "HOME" _ _ rfl).2 "/root" rfl fun w hw => ?_
    rw [Utf8.shows_iff]
    revert w
    decide
  have hlast : raw.capture.get? "X\uFFFD" = some "2\uFFFD" :=
    (hcaptured.values ..).2 ⟨[_, _], (_, _), [], rfl, hnames, hvalue, fun _ hw => nomatch hw⟩
  obtain ⟨hkept, hskipped⟩ := hcontributed ([0x58, 0xFF], Utf8.encode "1") (.tail _ (.head _)) "X\uFFFD" hshown
    [(c, run, .empty)] c run .empty
  exact ⟨hshown, by decide, hhome, hlast, hkept.trans hlast, hskipped (by decide)⟩

end Environment.Raw

end CiMessage
