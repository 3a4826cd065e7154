import CiMessage.Proofs.Decoding
import CiMessage.Proofs.Spelling.Compact
import CiMessage.Proofs.Spelling.Containers
import CiMessage.Proofs.Spelling.Variants
import CiMessage.Workspace.Json
import Mathlib.Data.List.Permutation

/-!
# Handles from objects

A handle is written when its directory is the bytes of a text (`toJson_eq_ok_iff`). An object is read member by member
(`ofJson_object`), by one of two routes: the directory is read as a path when the kind is known, and kept as a value
when it comes before the kind. Members of other names count for neither (`takeAll_filter`), and from the two that
are left both routes come to the same handle (`takeAll_pair`).

A directory that is null leaves the same as one that is missing (`Draft.withNull`), whatever else the object holds, so
both objects are read alike, handles and errors (`ofJson_without_dir`).
-/

namespace CiMessage.Workspace.Handle

open Json (Document Error Glyph Reader Reads ReadsMember Spelling Value view)

variable {h : Handle} {d d' : Draft} {k : Kind} {key : String} {v : Spelling} {x : Value}

/-! ## Writing -/

/-- The value stands for the directory: null for none, and else the text whose bytes are the path. -/
def Stands (x : Value) : Option Path → Prop
  | none => x = .null
  | some p => ∃ s, p = .ofText s ∧ x = .string s

/-- The members of the written form, with a value for the directory. -/
def members (h : Handle) (x : Value) : List (String × Value) := [(kindKey, .string h.kind.tag), (dirKey, x)]

/-- **A path is written** when it is the bytes of a text. -/
theorem path_toJson_eq_ok_iff {p : Path} : p.toJson = .ok x ↔ Stands x (some p) := by
  have htext : ∀ s, p.text? = some s ↔ p = .ofText s := by
    intro s
    rw [Path.text?, Utf8.decode?_eq_some_iff, Path.ofText, Path.mk.injEq]
  simp only [Stands, ← htext, Path.toJson]
  cases p.text? with
  | none => simp
  | some s => simp [eq_comm]

/-- **A handle is written** when a value stands for its directory. -/
theorem toJson_eq_ok_iff {y : Value} : h.toJson = .ok y ↔ ∃ x, Stands x h.dir ∧ y = .object (h.members x) := by
  unfold toJson members
  cases h.dir with
  | none => simp [Stands, eq_comm, pure, Except.pure]
  | some p =>
    simp only [← path_toJson_eq_ok_iff, Json.bind_eq_ok]
    simp [eq_comm, pure, Except.pure]

theorem spelled_of_stands {dir : Option Path} (hx : Stands x dir) (depth : Nat) : x.Spelled depth := by
  cases dir with
  | none =>
    cases hx
    exact Json.spelled_null depth
  | some p =>
    obtain ⟨s, -, rfl⟩ := hx
    exact Json.spelled_string s depth

/-! ## Member by member -/

theorem kindKey_ne_dirKey : kindKey ≠ dirKey := by decide

theorem ofTag_tag (k : Kind) : Kind.ofTag k.tag = .ok k := by
  cases k <;> rfl

theorem ofKind_kind (h : Handle) : ofKind h.kind h.dir = h := by
  cases h <;> rfl

namespace Draft

/-- The handle so far, after a member of an object. -/
def take (d : Draft) (key : String) (v : Spelling) : Except Error Draft :=
  if key = kindKey then
    match d with
    | empty => kind <$> v.variant? Kind.ofTag
    | dir x => v.variant? Kind.ofTag >>= ofValue x
    | kind _ | whole _ => .error (.duplicateField kindKey)
  else if key = dirKey then
    match d with
    | empty => dir <$> v.value
    | kind k => (fun p => whole (ofKind k p)) <$> v.orNull (Path.ofText <$> v.string? Path.expected)
    | dir _ | whole _ => .error (.duplicateField dirKey)
  else .ok d

/-- A member is read as it is taken; a directory that may be kept as a value is not nested too deep for that. -/
theorem readsMember_memberReader (d : Draft) (hd : key = dirKey → v.depth ≤ Json.depthLimit - 1) :
    ReadsMember (memberReader d key) v (d.take key v) := by
  have hkind := (Json.reads_variant Kind.ofTag v).afterColon
  unfold memberReader take
  split
  · cases d with
    | empty => exact hkind.map _
    | dir x => exact hkind.check _
    | kind | whole => exact Json.readsMember_fail _ v
  split
  · next hkey =>
    cases d with
    | empty => exact (Json.reads_value _ v (hd hkey)).afterColon.map _
    | kind k => exact ((Json.reads_string Path.expected v).map Path.ofText).optional.afterColon.map _
    | dir | whole => exact Json.readsMember_fail _ v
  · exact (Json.reads_skip v).afterColon.map _

/-- What a draft is when a directory comes that is null. -/
def withNull : Draft → Draft
  | empty => dir .null
  | kind k => whole (ofKind k none)
  | d => d

/-- A value for the directory makes a handle, which a null does not change. -/
theorem map_withNull_ofValue (y : Value) (k : Kind) : withNull <$> ofValue y k = ofValue y k := by
  cases y <;> rfl

/-- A null for the directory does not change what the other members do. -/
theorem take_withNull (hkey : key ≠ dirKey) : d.withNull.take key v = withNull <$> d.take key v := by
  unfold take
  by_cases hk : key = kindKey
  · simp only [if_pos hk]
    cases d with
    | empty => cases v.variant? Kind.ofTag <;> rfl
    | dir y =>
      cases v.variant? Kind.ofTag with
      | error e => rfl
      | ok k => exact (map_withNull_ofValue y k).symm
    | kind | whole => rfl
  · simp only [if_neg hk, if_neg hkey]
    rfl

/-- The handle is the same whether the directory is null or missing. -/
theorem finish_withNull (d : Draft) : d.withNull.finish = d.finish := by
  cases d <;> rfl

/-- A draft without a directory. -/
def Lacks (d : Draft) : Prop := d = empty ∨ ∃ k, d = kind k

theorem Lacks.take_null (hd : d.Lacks) : d.take dirKey .null = .ok d.withNull := by
  obtain rfl | ⟨k, rfl⟩ := hd
  · rfl
  · rfl

theorem Lacks.of_take (hd : d.Lacks) (hkey : key ≠ dirKey) (h : d.take key v = .ok d') : d'.Lacks := by
  unfold take at h
  by_cases hk : key = kindKey
  · rw [if_pos hk] at h
    obtain rfl | ⟨k, rfl⟩ := hd
    · obtain ⟨k, -, rfl⟩ := Json.map_eq_ok.1 h
      exact .inr ⟨k, rfl⟩
    · cases h
  · rw [if_neg hk, if_neg hkey] at h
    cases h
    exact hd

end Draft

section Members

variable {ms : List (String × Spelling)}

/-- Takes all members one after the other. -/
def takeAll (d : Draft) (ms : List (String × Spelling)) : Except Error Draft := ms.foldlM (fun d m => d.take m.1 m.2) d

theorem takeAll_withNull (hms : ∀ m ∈ ms, m.1 ≠ dirKey) (d : Draft) :
    takeAll d.withNull ms = Draft.withNull <$> takeAll d ms := by
  induction ms generalizing d with
  | nil => rfl
  | cons m ms ih =>
    have hrest := ih fun m hm => hms m (List.mem_cons_of_mem _ hm)
    unfold takeAll at hrest ⊢
    rw [List.foldlM_cons, List.foldlM_cons, Draft.take_withNull (hms m List.mem_cons_self)]
    cases d.take m.1 m.2 with
    | error e => rfl
    | ok d' => exact hrest d'

theorem lacks_of_takeAll (hms : ∀ m ∈ ms, m.1 ≠ dirKey) (hd : d.Lacks) (h : takeAll d ms = .ok d') : d'.Lacks := by
  induction ms generalizing d with
  | nil =>
    cases h
    exact hd
  | cons m ms ih =>
    rw [takeAll, List.foldlM_cons] at h
    obtain ⟨d₁, hm, hrest⟩ := Json.bind_eq_ok.1 h
    exact ih (fun m hm => hms m (List.mem_cons_of_mem _ hm)) (hd.of_take (hms m List.mem_cons_self) hm) hrest

/-- The keys of the members that count. -/
def keys : List String := [kindKey, dirKey]

/-- **Members of other names do not count.** -/
theorem takeAll_filter (d : Draft) (ms : List (String × Spelling)) :
    takeAll d (ms.filter (·.1 ∈ keys)) = takeAll d ms := by
  unfold takeAll
  rw [List.foldlM_filter]
  congr 1
  funext d m
  by_cases hm : m.1 ∈ keys
  · simp [hm]
  · obtain ⟨hkind, hdir⟩ : m.1 ≠ kindKey ∧ m.1 ≠ dirKey := by simpa [keys] using hm
    simp [hm, Draft.take, hkind, hdir, pure, Except.pure]

/-! ## Both routes -/

variable {dir : Option Path}

/-- What stands for a directory is a scalar. -/
theorem depth_of_stands (hv : v.value = .ok x) (hx : Stands x dir) : v.depth = 0 := by
  cases dir with
  | none =>
    cases hx
    rw [Spelling.eq_null_of_value hv]
    rfl
  | some p =>
    obtain ⟨s, -, rfl⟩ := hx
    cases v with
    | emptyArray | emptyObject | array | object => simp [Spelling.value] at hv
    | _ => rfl

/-- A value that stands for a directory is read as that after the kind. -/
theorem orNull_of_stands (hv : v.value = .ok x) (hx : Stands x dir) :
    v.orNull (Path.ofText <$> v.string? Path.expected) = .ok dir := by
  cases dir with
  | none =>
    cases hx
    rw [Spelling.eq_null_of_value hv]
    rfl
  | some p =>
    obtain ⟨s, rfl, rfl⟩ := hx
    have hne : v ≠ .null := by
      rintro rfl
      cases hv
    rw [Spelling.orNull_of_ne hne, Json.string?_of_value _ hv]
    rfl

/-- A value that stands for a directory makes the handle with that when the kind comes after it. -/
theorem ofValue_of_stands (hx : Stands x dir) (k : Kind) : Draft.ofValue x k = .ok (.whole (ofKind k dir)) := by
  cases dir with
  | none =>
    cases hx
    rfl
  | some p =>
    obtain ⟨s, rfl, rfl⟩ := hx
    rfl

/-- **The kind and the directory make the handle,** whichever comes first. -/
theorem takeAll_pair {w : Spelling} (hv : v.value = .ok (.string k.tag)) (hw : w.value = .ok x) (hx : Stands x dir) :
    takeAll .empty [(kindKey, v), (dirKey, w)] = .ok (.whole (ofKind k dir)) ∧
      takeAll .empty [(dirKey, w), (kindKey, v)] = .ok (.whole (ofKind k dir)) := by
  have hkind : v.variant? Kind.ofTag = .ok k := by rw [Json.variant?_of_value _ hv, ofTag_tag]
  have hne := kindKey_ne_dirKey
  constructor
  · simp [takeAll, Draft.take, hkind, hne.symm, orNull_of_stands hw hx]
  · simp [takeAll, Draft.take, hkind, hne.symm, hw, ofValue_of_stands hx]

end Members

/-! ## Texts of a handle -/

section Texts

variable {doc : Document} {ms : List (String × Spelling)}

/-- **An object is read member by member.** -/
theorem ofJson_object (hms : doc.value.HasMembers ms) (hd : ∀ m ∈ ms, m.1 = dirKey → m.2.depth ≤ Json.depthLimit - 1) :
    ofJson doc.text = takeAll .empty ms >>= Draft.finish := by
  have hmember (m) (hm : m ∈ ms) (d : Draft) := d.readsMember_memberReader (hd m hm)
  refine Reads.parse (Json.reads_object (fun b cs => ?_) hms hmember)
  rw [reader, Reader.view_afterBlanks, b.skip, Json.skipBlanks_of_not_blank rfl]
  exact Reader.view_past ..

/-- **The members of a handle in any order, with others among them,** are read as the handle. -/
theorem ofJson_of_perm (hms : doc.value.HasMembers ms) (hx : Stands x h.dir)
    (hperm : ((ms.filter (·.1 ∈ keys)).map fun m => (m.1, m.2.value)).Perm
      ((h.members x).map fun m => (m.1, .ok m.2))) : ofJson doc.text = .ok h := by
  have hdepth : ∀ m ∈ ms, m.1 = dirKey → m.2.depth ≤ Json.depthLimit - 1 := by
    intro m hm hkey
    have hmem : (m.1, m.2.value) ∈ (ms.filter (·.1 ∈ keys)).map fun m => (m.1, m.2.value) :=
      List.mem_map_of_mem (List.mem_filter.2 ⟨hm, by simp [hkey, keys]⟩)
    rw [hperm.mem_iff] at hmem
    simp only [members, List.map_cons, List.map_nil, List.mem_cons, List.not_mem_nil, or_false, Prod.mk.injEq, hkey,
      kindKey_ne_dirKey.symm, false_and, true_and, false_or] at hmem
    rw [depth_of_stands hmem hx]
    exact Nat.zero_le _
  rw [ofJson_object hms hdepth, ← takeAll_filter]
  simp only [members, List.map_cons, List.map_nil, List.perm_pair, List.map_eq_cons_iff, List.map_eq_nil_iff] at hperm
  -- the kind first, or the directory
  obtain ⟨⟨key, v⟩, _, hl, hm, ⟨key', w⟩, _, rfl, hm', rfl⟩ | ⟨⟨key, v⟩, _, hl, hm, ⟨key', w⟩, _, rfl, hm', rfl⟩ := hperm
  · obtain ⟨rfl, hv⟩ := Prod.mk.inj hm
    obtain ⟨rfl, hw⟩ := Prod.mk.inj hm'
    rw [hl, (takeAll_pair hv hw hx).1, Json.ok_bind, Draft.finish, ofKind_kind]
  · obtain ⟨rfl, hv⟩ := Prod.mk.inj hm
    obtain ⟨rfl, hw⟩ := Prod.mk.inj hm'
    rw [hl, (takeAll_pair hw hv hx).2, Json.ok_bind, Draft.finish, ofKind_kind]

/-- The text of a handle is read as the handle. -/
theorem ofJson_toJson {y : Value} (hy : h.toJson = .ok y) : ofJson y.text = .ok h := by
  obtain ⟨x, hx, rfl⟩ := toJson_eq_ok_iff.1 hy
  have hspelled : (Value.object (h.members x)).Spelled 1 := by
    refine Json.spelled_object fun m hm => ?_
    simp only [members, List.mem_cons, List.not_mem_nil, or_false] at hm
    obtain rfl | rfl := hm
    · exact Json.spelled_string ..
    · exact spelled_of_stands hx 0
  obtain ⟨doc, hdoc, hvalue, -⟩ := hspelled.exists_document
  obtain ⟨ms, hms, hvalues⟩ := Spelling.exists_hasMembers hvalue
  have hown : ∀ m ∈ ms, m.1 ∈ keys := by
    intro m hm
    have hmem := List.mem_map_of_mem (f := fun m => (m.1, m.2.value)) hm
    simp only [hvalues, members, List.map_cons, List.map_nil, List.mem_cons, List.not_mem_nil, or_false,
      Prod.mk.injEq] at hmem
    obtain ⟨hkey, -⟩ | ⟨hkey, -⟩ := hmem <;> simp [hkey, keys]
  rw [← hdoc]
  refine ofJson_of_perm hms hx ?_
  rw [List.filter_eq_self.2 fun m hm => decide_eq_true (hown m hm), hvalues]

/-- **A directory that is null is as good as none,** whatever else the object holds. -/
theorem ofJson_without_dir {doc' : Document} {before after : List (String × Spelling)}
    (hms : doc.value.HasMembers (before ++ after)) (hms' : doc'.value.HasMembers (before ++ (dirKey, .null) :: after))
    (hdir : ∀ m ∈ before ++ after, m.1 ≠ dirKey) : ofJson doc.text = ofJson doc'.text := by
  have hbefore : ∀ m ∈ before, m.1 ≠ dirKey := fun m hm => hdir m (List.mem_append_left _ hm)
  have hafter : ∀ m ∈ after, m.1 ≠ dirKey := fun m hm => hdir m (List.mem_append_right _ hm)
  have hnull : ∀ m ∈ before ++ (dirKey, .null) :: after, m.1 = dirKey → m.2.depth ≤ Json.depthLimit - 1 := by
    intro m hm hkey
    obtain hm | hm := List.mem_append.1 hm
    · exact absurd hkey (hbefore m hm)
    obtain rfl | hm := List.mem_cons.1 hm
    · exact Nat.zero_le _
    · exact absurd hkey (hafter m hm)
  rw [ofJson_object hms fun m hm hkey => absurd hkey (hdir m hm), ofJson_object hms' hnull]
  have hsplit : takeAll .empty (before ++ after) = takeAll .empty before >>= fun d => takeAll d after :=
    List.foldlM_append
  have hsplit' : takeAll .empty (before ++ (dirKey, .null) :: after) =
      takeAll .empty before >>= fun d => d.take dirKey .null >>= fun d => takeAll d after := by
    simp only [takeAll, List.foldlM_append, List.foldlM_cons]
  rw [hsplit, hsplit']
  cases hb : takeAll .empty before with
  | error e => rfl
  | ok d =>
    have hlacks : d.Lacks := lacks_of_takeAll hbefore (.inl rfl) hb
    rw [Json.ok_bind, Json.ok_bind, hlacks.take_null, Json.ok_bind, takeAll_withNull hafter]
    cases takeAll d after with
    | error e => rfl
    | ok d' => exact (Draft.finish_withNull d').symm

end Texts

/-- A handle cannot be written when its directory is not the bytes of any text. -/
theorem exists_error_iff : (∃ e, h.toJson = .error e) ↔ ∃ p, h.dir = some p ∧ ∀ s, p.bytes ≠ Utf8.encode s := by
  constructor
  · rintro ⟨e, he⟩
    have hnot : ∀ x, ¬ Stands x h.dir := fun x hx => by
      have hok := toJson_eq_ok_iff.2 ⟨x, hx, rfl⟩
      rw [he] at hok
      cases hok
    cases hdir : h.dir with
    | none => exact absurd (hdir ▸ rfl) (hnot .null)
    | some p => exact ⟨p, rfl, fun s hs => hnot (.string s) (hdir ▸ ⟨s, congrArg Path.mk hs, rfl⟩)⟩
  · rintro ⟨p, hdir, hp⟩
    cases hy : h.toJson with
    | error e => exact ⟨e, rfl⟩
    | ok y =>
      obtain ⟨x, hx, -⟩ := toJson_eq_ok_iff.1 hy
      rw [hdir] at hx
      obtain ⟨s, rfl, -⟩ := hx
      exact absurd rfl (hp s)

/-- **Handles are read back.** A handle can be written unless its directory is a path that is not UTF-8, and its compact text
is read as the handle, with the bytes of its path. So is every text of an object with the same two members in any order,
with members of other names among them, and spelled in any way. An object without a directory is read like the same one
with a null for it. -/
theorem ofJson_of_kind_and_dir (h : Handle) :
    ((∃ e, h.toJson = .error e) ↔ ∃ p, h.dir = some p ∧ ∀ s, p.bytes ≠ Utf8.encode s) ∧
      (∀ y, h.toJson = .ok y → ofJson y.text = .ok h) ∧
      (∀ (doc : Document) (ms : List (String × Spelling)) (xs : List (String × Value)), doc.value.HasMembers ms →
        h.toJson = .ok (.object xs) →
        ((ms.filter (·.1 ∈ keys)).map fun m => (m.1, m.2.value)).Perm (xs.map fun x => (x.1, .ok x.2)) →
        ofJson doc.text = .ok h) ∧
      ∀ (doc doc' : Document) (before after : List (String × Spelling)), doc.value.HasMembers (before ++ after) →
        doc'.value.HasMembers (before ++ (dirKey, .null) :: after) → (∀ m ∈ before ++ after, m.1 ≠ dirKey) →
        ofJson doc.text = ofJson doc'.text := by
  refine ⟨exists_error_iff, fun y => ofJson_toJson, fun doc ms xs hms hxs hperm => ?_,
    fun doc doc' before after => ofJson_without_dir⟩
  obtain ⟨x, hx, hobject⟩ := toJson_eq_ok_iff.1 hxs
  cases hobject
  exact ofJson_of_perm hms hx hperm

/-- An object with the directory before the kind, a slash of it escaped, and something else between them. -/
def rootedDocument : Document where
  before := .space
  value := .object
    (.cons ⟨.none, Glyph.plains "dir", .none⟩ .none
      (.string (.number '0' '0' '2' 'f' 0x2F rfl :: Glyph.plains "ws")) .none
      (.cons ⟨.none, Glyph.plains "note", .none⟩ .none (.array (.one .none .null .none)) .none
        (.one ⟨.space, Glyph.plains "kind", .none⟩ .none (.string (Glyph.plains "rooted")) .none)))
  after := .none

/-- An object of a kind, with nothing else or with a null for the directory. -/
def kindDocument (withDir : Bool) : Document where
  before := .none
  value :=
    if withDir then .object
      (.cons ⟨.none, Glyph.plains "dir", .none⟩ .none .null .none
        (.one ⟨.none, Glyph.plains "kind", .none⟩ .none (.string (Glyph.plains "direct")) .none))
    else .object (.one ⟨.none, Glyph.plains "kind", .none⟩ .none (.string (Glyph.plains "direct")) .none)
  after := .none

theorem ofJson_of_kind_and_dir_reversed :
    rootedDocument.text = " \x7b\"dir\":\"\\u002fws\",\"note\":[null], \"kind\":\"rooted\"\x7d" ∧
      ofJson rootedDocument.text = .ok (rooted (some (.ofText "/ws"))) ∧
      ofJson (Value.object ((direct none).members .null)).text = .ok (direct none) ∧
      ofJson (kindDocument false).text = ofJson (kindDocument true).text ∧
      ∃ e, (direct (some ⟨[0x66, 0xFF]⟩)).toJson = .error e := by
  refine ⟨by decide, ?_, ?_, ?_, ?_⟩
  · refine (ofJson_of_kind_and_dir (rooted (some (.ofText "/ws")))).2.2.1 rootedDocument
      [("dir", .string _), ("note", .array (.one .none .null .none)), ("kind", .string (Glyph.plains "rooted"))] _ rfl
      (toJson_eq_ok_iff.2 ⟨.string "/ws", ⟨"/ws", rfl, rfl⟩, rfl⟩) ?_
    exact @List.Perm.swap (String × Except Error Value) ("kind", .ok (.string "rooted")) ("dir", .ok (.string "/ws")) []
  · exact (ofJson_of_kind_and_dir (direct none)).2.1 _ (toJson_eq_ok_iff.2 ⟨.null, rfl, rfl⟩)
  · exact (ofJson_of_kind_and_dir (direct none)).2.2.2 (kindDocument false) (kindDocument true) []
      [("kind", .string (Glyph.plains "direct"))] rfl rfl (by decide)
  · refine (ofJson_of_kind_and_dir (direct (some ⟨[0x66, 0xFF]⟩))).1.2 ⟨_, rfl, fun s hs => ?_⟩
    have hnone : Utf8.decode? [0x66, 0xFF] = none := by decide
    exact nomatch hnone.symm.trans (Utf8.decode?_eq_some_iff.2 hs)

end CiMessage.Workspace.Handle
