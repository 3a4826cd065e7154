import CiMessage.Proofs.Overrides
import CiMessage.Proofs.Spelling.Compact
import CiMessage.Proofs.Spelling.Containers

/-!
# Configurations from objects

An object is read member by member into the fields that it lists (`listed_object`). A member adds its own field, which was
not there before, so an object that lists a field twice is rejected (`exists_error_of_twice`).

When the members carry the values of a configuration, the object is the layer of the fields that are listed
(`listed_of_carries`), whatever stands among them and however it is spelled. The written form of a configuration lists all
fields (`listed_toJson`). `ofJson_of_fields` says which configuration is accepted.
-/

namespace CiMessage.Config

open Json (Blanks Document Error Glyph Members Reader Reads ReadsMember Spelling Value view)

/-- The keys of the fields. -/
def fieldKeys : List String := [redirectKey, verifyKey, subdirKey]

theorem keys_ne : redirectKey ≠ verifyKey ∧ redirectKey ≠ subdirKey ∧ verifyKey ≠ subdirKey := by
  decide

namespace Draft

/-! ## Member by member -/

/-- A field that may come once. -/
def once (key : String) (seen : Bool) (field : Except Error Draft) : Except Error Draft :=
  if seen then .error (.duplicateField key) else field

theorem once_map_eq_ok {α : Type} {key : String} {seen : Bool} {x : Except Error α} {f : α → Draft} {d : Draft} :
    once key seen (f <$> x) = .ok d ↔ seen = false ∧ ∃ a, x = .ok a ∧ f a = d := by
  cases seen <;> simp [once]

/-- The fields after a member of an object. -/
def take (d : Draft) (key : String) (v : Spelling) : Except Error Draft :=
  if key = redirectKey then
    once key d.redirectEnabled.isSome ((fun b => { d with redirectEnabled := some b }) <$> v.boolean?)
  else if key = verifyKey then
    once key d.verifyAfterWrite.isSome ((fun b => { d with verifyAfterWrite := some b }) <$> v.boolean?)
  else if key = subdirKey then
    once key d.workspaceSubdir.isSome ((fun s => { d with workspaceSubdir := some s }) <$> v.string? "a string")
  else .ok d

theorem readsMember_once {p : Reader Draft} {v : Spelling} {x : Except Error Draft} (h : Reads p v x) (key : String)
    (seen : Bool) :
    ReadsMember (if seen then .fail (.duplicateField key) else Reader.afterColon p) v (once key seen x) := by
  cases seen with
  | true => exact Json.readsMember_fail _ v
  | false => exact h.afterColon

theorem readsMember_memberReader (d : Draft) (key : String) (v : Spelling) :
    ReadsMember (memberReader d key) v (d.take key v) := by
  unfold memberReader take
  split
  · exact readsMember_once ((Json.reads_boolean v).map _) key _
  split
  · exact readsMember_once ((Json.reads_boolean v).map _) key _
  split
  · exact readsMember_once ((Json.reads_string _ v).map _) key _
  · exact (Json.reads_skip v).afterColon.map _

end Draft

variable {doc : Document} {d d' : Draft} {c : Config} {key k : String} {v : Spelling}

/-- **An object is read member by member.** -/
theorem listed_object {members : Members} (hdoc : doc.value = .object members) :
    listed doc.text = members.toList.foldlM (Reader.foldMember Draft.take) .empty := by
  refine Reads.parse ?_
  rw [hdoc]
  intro b rest _
  rw [Draft.reader, Reader.view_afterBlanks, b.skip, Spelling.object_append, Json.skipBlanks_of_not_blank rfl]
  exact (Reader.view_past ..).trans
    (Reader.view_members Draft.take (fun m _ d key _ => d.readsMember_memberReader key m.2) .empty rest)

theorem listed_emptyObject {inner : Blanks} (hdoc : doc.value = .emptyObject inner) : listed doc.text = .ok .empty := by
  refine Reads.parse ?_
  rw [hdoc]
  intro b rest _
  rw [Draft.reader, Reader.view_afterBlanks, b.skip, Spelling.emptyObject_append, Json.skipBlanks_of_not_blank rfl]
  exact (Reader.view_past ..).trans (Reader.view_members_empty Draft.memberReader .empty inner rest)

theorem listed_of_hasMembers {ms : List (String × Spelling)} (h : doc.value.HasMembers ms) :
    listed doc.text = ms.foldlM (fun d m => d.take m.1 m.2) .empty := by
  cases hv : doc.value with
  | emptyObject inner =>
    rw [hv] at h
    obtain rfl : ms = [] := h
    exact listed_emptyObject hv
  | object members =>
    rw [hv] at h
    rw [listed_object hv, Json.foldlM_foldMember h]
  | _ => rw [hv] at h; exact h.elim

/-! ## Fields that come twice -/

/-- Does the layer have the field of the key? -/
def Draft.has (d : Draft) (key : String) : Bool :=
  if key = redirectKey then d.redirectEnabled.isSome
  else if key = verifyKey then d.verifyAfterWrite.isSome
  else if key = subdirKey then d.workspaceSubdir.isSome
  else false

/-- A member adds its own field, which was not there, and no other one. -/
theorem Draft.has_of_take (h : d.take key v = .ok d') (hk : k ∈ fieldKeys) :
    (d'.has k).toNat = (d.has k).toNat + if key = k then 1 else 0 := by
  simp only [fieldKeys, List.mem_cons, List.not_mem_nil, or_false] at hk
  unfold take at h
  split at h
  · next hkey =>
    obtain ⟨hseen, b, -, rfl⟩ := once_map_eq_ok.1 h
    obtain rfl | rfl | rfl := hk <;> simp [has, hkey, hseen, redirectKey, verifyKey, subdirKey]
  split at h
  · next hkey =>
    obtain ⟨hseen, b, -, rfl⟩ := once_map_eq_ok.1 h
    obtain rfl | rfl | rfl := hk <;> simp [has, hkey, hseen, redirectKey, verifyKey, subdirKey]
  split at h
  · next hkey =>
    obtain ⟨hseen, s, -, rfl⟩ := once_map_eq_ok.1 h
    obtain rfl | rfl | rfl := hk <;> simp [has, hkey, hseen, redirectKey, verifyKey, subdirKey]
  · next h₁ h₂ h₃ =>
    cases h
    obtain rfl | rfl | rfl := hk
    · rw [if_neg h₁, Nat.add_zero]
    · rw [if_neg h₂, Nat.add_zero]
    · rw [if_neg h₃, Nat.add_zero]

/-- A list of members adds each field as often as its key comes. -/
theorem Draft.has_of_foldlM {l : List (List Glyph × Spelling)}
    (h : l.foldlM (Reader.foldMember take) d = .ok d') (hk : k ∈ fieldKeys) :
    (d'.has k).toNat = (d.has k).toNat + l.countP fun m => Glyph.text m.1 = .ok k := by
  induction l generalizing d with
  | nil =>
    cases h
    rfl
  | cons m l ih =>
    rw [List.foldlM_cons, Reader.foldMember] at h
    obtain ⟨d₁, hmember, hrest⟩ := Json.bind_eq_ok.1 h
    obtain ⟨key, hname, htake⟩ := Json.bind_eq_ok.1 hmember
    rw [ih hrest, has_of_take htake hk, List.countP_cons, hname]
    simp only [Except.ok.injEq, decide_eq_true_eq]
    omega

/-- **A field comes once,** or the object is rejected. -/
theorem exists_error_of_twice {members : Members} (hdoc : doc.value = .object members) (hk : k ∈ fieldKeys)
    (htwice : 2 ≤ members.toList.countP fun m => Glyph.text m.1 = .ok k) : ∃ e, listed doc.text = .error e := by
  cases hl : listed doc.text with
  | error e => exact ⟨e, rfl⟩
  | ok d =>
    rw [listed_object hdoc] at hl
    have hhas := Draft.has_of_foldlM hl hk
    have hone := Bool.toNat_le (d.has k)
    omega

/-! ## Fields of a configuration -/

/-- The member carries the value that the configuration has for it, if it is a field. -/
structure Carries (c : Config) (key : String) (v : Spelling) : Prop where
  redirect : key = redirectKey → v.value = .ok (.boolean c.redirectEnabled)
  verify : key = verifyKey → v.value = .ok (.boolean c.verifyAfterWrite)
  subdir : key = subdirKey → v.value = .ok (.string c.workspaceSubdir)

/-- The layer of the fields with some keys. -/
def fields (c : Config) (keys : List String) : Draft :=
  ⟨if redirectKey ∈ keys then some c.redirectEnabled else none,
    if verifyKey ∈ keys then some c.verifyAfterWrite else none,
    if subdirKey ∈ keys then some c.workspaceSubdir else none⟩

/-- One more field is listed, or a key that names none. -/
theorem take_fields {seen : List String} (hcarries : c.Carries key v) (hnew : key ∈ fieldKeys → key ∉ seen) :
    (c.fields seen).take key v = .ok (c.fields (seen ++ [key])) := by
  obtain ⟨hrv, hrs, hvs⟩ := keys_ne
  simp only [fieldKeys, List.mem_cons, List.not_mem_nil, or_false] at hnew
  unfold Draft.take
  split
  · next hkey =>
    rw [Json.boolean?_of_value (hcarries.redirect hkey)]
    have hseen := hnew (.inl hkey)
    subst hkey
    simp [Draft.once, fields, hseen, hrv.symm, hrs.symm]
  split
  · next hkey =>
    rw [Json.boolean?_of_value (hcarries.verify hkey)]
    have hseen := hnew (.inr (.inl hkey))
    subst hkey
    simp [Draft.once, fields, hseen, hrv, hvs.symm]
  split
  · next hkey =>
    rw [Json.string?_of_value _ (hcarries.subdir hkey)]
    have hseen := hnew (.inr (.inr hkey))
    subst hkey
    simp [Draft.once, fields, hseen, hrs, hvs]
  · next h₁ h₂ h₃ => simp [fields, Ne.symm h₁, Ne.symm h₂, Ne.symm h₃]

/-- The fields that are listed are those of the keys seen so far. -/
theorem foldlM_take_fields {seen : List String} {ms : List (String × Spelling)}
    (hcarries : ∀ m ∈ ms, c.Carries m.1 m.2)
    (honce : ∀ key ∈ fieldKeys, (seen ++ ms.map Prod.fst).count key ≤ 1) :
    ms.foldlM (fun d m => d.take m.1 m.2) (c.fields seen) = .ok (c.fields (seen ++ ms.map Prod.fst)) := by
  induction ms generalizing seen with
  | nil => rw [List.map_nil, List.append_nil]; rfl
  | cons m ms ih =>
    have hassoc : seen ++ (m :: ms).map Prod.fst = seen ++ [m.1] ++ ms.map Prod.fst := by simp
    rw [hassoc] at honce ⊢
    have hnew : m.1 ∈ fieldKeys → m.1 ∉ seen := by
      intro hkey hseen
      have hone := honce m.1 hkey
      have hpos := List.count_pos_iff.2 hseen
      simp at hone
      omega
    rw [List.foldlM_cons, take_fields (hcarries m List.mem_cons_self) hnew, Json.ok_bind]
    exact ih (fun m hm => hcarries m (List.mem_cons_of_mem _ hm)) honce

/-- **Members that carry the values of a configuration** make the layer of its fields that are listed. -/
theorem listed_of_carries {ms : List (String × Spelling)} (h : doc.value.HasMembers ms)
    (hcarries : ∀ m ∈ ms, c.Carries m.1 m.2) (honce : ∀ key ∈ fieldKeys, (ms.map Prod.fst).count key ≤ 1) :
    listed doc.text = .ok (c.fields (ms.map Prod.fst)) := by
  rw [listed_of_hasMembers h]
  -- No field has been listed at the beginning.
  have hempty : c.fields [] = .empty := rfl
  have hfold := foldlM_take_fields hcarries (show ∀ key ∈ fieldKeys, ([] ++ ms.map Prod.fst).count key ≤ 1 from honce)
  rwa [hempty] at hfold

theorem fields_over {keys : List String} (h : ∀ key ∈ fieldKeys, key ∈ keys) : (c.fields keys).over default = c := by
  simp only [fieldKeys, List.mem_cons, List.not_mem_nil, or_false, forall_eq_or_imp, forall_eq] at h
  obtain ⟨hr, hv, hs⟩ := h
  simp [fields, Draft.over, hr, hv, hs]

/-- The written form of a configuration lists all its fields. -/
theorem listed_toJson (c : Config) : listed c.toJson.text = .ok (c.fields fieldKeys) := by
  have hspelled : c.toJson.Spelled 1 := by
    refine Json.spelled_object fun m hm => ?_
    simp only [List.mem_cons, List.not_mem_nil, or_false] at hm
    obtain rfl | rfl | rfl := hm
    · exact Json.spelled_boolean ..
    · exact Json.spelled_boolean ..
    · exact Json.spelled_string ..
  obtain ⟨doc, hdoc, hvalue, -⟩ := hspelled.exists_document
  obtain ⟨ms, hms, hvalues⟩ := Spelling.exists_hasMembers hvalue
  have hnames : ms.map Prod.fst = fieldKeys := by
    have := congrArg (List.map Prod.fst) hvalues
    simpa [fieldKeys, Function.comp_def] using this
  have hcarries : ∀ m ∈ ms, c.Carries m.1 m.2 := by
    intro m hm
    have hmem := List.mem_map_of_mem (f := fun m => (m.1, m.2.value)) hm
    simp only [hvalues, List.map_cons, List.map_nil, List.mem_cons, List.not_mem_nil, or_false, Prod.mk.injEq] at hmem
    obtain ⟨hrv, hrs, hvs⟩ := keys_ne
    obtain ⟨hkey, hv⟩ | ⟨hkey, hv⟩ | ⟨hkey, hv⟩ := hmem
    · exact ⟨fun _ => hv, fun h => absurd (hkey.symm.trans h) hrv, fun h => absurd (hkey.symm.trans h) hrs⟩
    · exact ⟨fun h => absurd (h.symm.trans hkey) hrv, fun _ => hv, fun h => absurd (hkey.symm.trans h) hvs⟩
    · exact ⟨fun h => absurd (h.symm.trans hkey) hrs, fun h => absurd (h.symm.trans hkey) hvs, fun _ => hv⟩
  have honce : ∀ key ∈ fieldKeys, (ms.map Prod.fst).count key ≤ 1 := by
    rw [hnames]
    decide
  rw [← hdoc, listed_of_carries hms hcarries honce, hnames]

/-! ## Accepted texts -/

/-- **An object stands for the defaults with the fields that it lists in their place.** The members that name a field carry
the values of some configuration; they are in any order, with others among them, and all of them are spelled in any way.
The text is accepted when the workspace that results has a plain name, so the written form of an accepted configuration is
that configuration again. A text in which a field comes twice is rejected. -/
theorem ofJson_of_fields (c : Config) :
    (∀ (doc : Document) (ms : List (String × Spelling)), doc.value.HasMembers ms → (∀ m ∈ ms, c.Carries m.1 m.2) →
      (∀ key ∈ fieldKeys, (ms.map Prod.fst).count key ≤ 1) →
        let c' := (c.fields (ms.map Prod.fst)).over default
        ofJson doc.text =
          if Workspace.isPlainName c'.workspaceSubdir then .ok c'
          else .error (.invalidValue subdirKey c'.workspaceSubdir)) ∧
      (Workspace.isPlainName c.workspaceSubdir = true → ofJson c.toJson.text = .ok c) ∧
      ∀ (doc : Document) (members : Members), doc.value = .object members → ∀ key ∈ fieldKeys,
        2 ≤ (members.toList.countP fun m => Glyph.text m.1 = .ok key) → ∃ e, ofJson doc.text = .error e := by
  refine ⟨fun doc ms hms hcarries honce => ?_, fun hplain => ?_, fun doc members hdoc key hk htwice => ?_⟩
  · rw [ofJson_eq, listed_of_carries hms hcarries honce]
    rfl
  · rw [ofJson_eq, listed_toJson]
    simp only [fields_over fun _ h => h, validate, hplain, if_true]
  · obtain ⟨e, he⟩ := exists_error_of_twice hdoc hk htwice
    exact ⟨.json e, by rw [ofJson_eq, he]⟩

/-- An object that lists the workspace, with an escape in its name, and something else. -/
def subdirDocument : Document where
  before := .none
  value := .object
    (.cons ⟨.none, Glyph.plains "note", .none⟩ .space (.emptyArray .none) .none
      (.one ⟨.none, Glyph.plains "workspace_subdir", .none⟩ .none
        (.string [.plain 'o' rfl, .number '0' '0' '7' '5' 0x75 rfl, .plain 't' rfl]) .none))
  after := .none

/-- An object that lists redirection twice. -/
def twiceDocument : Document where
  before := .none
  value := .object
    (.cons ⟨.none, Glyph.plains "redirect_enabled", .none⟩ .none (.boolean true) .none
      (.one ⟨.none, Glyph.plains "redirect_enabled", .none⟩ .none (.boolean true) .none))
  after := .none

theorem ofJson_of_fields_three :
    subdirDocument.text = "\x7b\"note\": [],\"workspace_subdir\":\"o\\u0075t\"\x7d" ∧
      ofJson subdirDocument.text = .ok ⟨true, true, "out"⟩ ∧
      ofJson (toJson ⟨false, true, "a b"⟩).text = .ok ⟨false, true, "a b"⟩ ∧
      ∃ e, ofJson twiceDocument.text = .error e := by
  refine ⟨by decide, ?_, ?_, ?_⟩
  · refine (ofJson_of_fields ⟨false, false, "out"⟩).1 subdirDocument
      [("note", .emptyArray .none), ("workspace_subdir", .string _)] rfl (fun m hm => ?_) (by decide)
    simp only [List.mem_cons, List.not_mem_nil, or_false] at hm
    obtain rfl | rfl := hm
    · exact ⟨fun h => absurd h (by decide), fun h => absurd h (by decide), fun h => absurd h (by decide)⟩
    · exact ⟨fun h => absurd h (by decide), fun h => absurd h (by decide), fun _ => rfl⟩
  · exact (ofJson_of_fields ⟨false, true, "a b"⟩).2.1 (by decide)
  · exact (ofJson_of_fields default).2.2 twiceDocument _ rfl redirectKey (by decide) (by decide)

end CiMessage.Config
