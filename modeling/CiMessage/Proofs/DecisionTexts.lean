import CiMessage.Decision.Json
import CiMessage.Proofs.Spelling.Compact
import CiMessage.Proofs.Spelling.Containers

/-!
# Decisions from objects

An object is read into its type and its other members (`ofJson_object`), wherever the type stands among them
(`foldlM_takeMember`). The other members are then made into fields one by one: those read so far are the draft of some
fields of the decision (`ofMembers_draft`), and when all of them are there, it is the decision (`finish_draft`).

So an object with the members of a decision in any order is read as that decision (`ofJson_of_perm`).
-/

namespace CiMessage.Decision

open Json (Document Error Glyph Members Reader Reads ReadsMember Spelling Value view)

/-! ## Fields of a decision -/

/-- The type of a decision. -/
def kind : Decision → Kind
  | skip .. => .skip
  | inject .. => .inject
  | redirect .. => .redirect

/-- The reason, if the decision has one. -/
def reason? : Decision → Option SkipReason
  | skip _ reason => some reason
  | _ => none

/-- The text of a field, if the decision has one. -/
def text? : Decision → Field → Option String
  | d, .name => some d.name
  | inject _ value, .value => some value
  | redirect _ value _ _, .value => some value
  | redirect _ _ pointer _, .pointer => some pointer
  | redirect _ _ _ file, .file => some file
  | _, _ => none

/-- The value of a field, if the decision has one. -/
def field? (d : Decision) : Field → Option Value
  | .reason => d.reason?.map SkipReason.toJson
  | f => (d.text? f).map .string

/-- The members of the written form. -/
def members (d : Decision) : List (String × Value) :=
  ("type", .string d.kind.tag) :: d.kind.fields.filterMap fun f => (d.field? f).map (f.key, ·)

theorem toJson_eq (d : Decision) : d.toJson = .object d.members := by
  cases d <;> rfl

/-- The fields of a decision that are in a list. -/
def draft (d : Decision) (fs : List Field) : Draft :=
  ⟨if .reason ∈ fs then d.reason? else none, fun f => if f ∈ fs then d.text? f else none⟩

variable {d : Decision} {f : Field} {fs : List Field} {v : Value}

theorem ofValue_toJson (r : SkipReason) : SkipReason.ofValue r.toJson = .ok r := by
  cases r <;> rfl

theorem field?_of_ne (d : Decision) (hf : f ≠ .reason) : d.field? f = (d.text? f).map .string := by
  cases f <;> first | rfl | exact absurd rfl hf

theorem has_draft (hf : f ∉ fs) : (d.draft fs).has f = false := by
  cases f <;> simp [Draft.has, draft, hf]

theorem text?_reason (d : Decision) : d.text? .reason = none := by
  cases d <;> rfl

/-- One more text field. -/
theorem put_text {t : String} (hf : f ≠ .reason) (ht : d.text? f = some t) :
    (d.draft fs).put f (.string t) = .ok (d.draft (fs ++ [f])) := by
  have hreason : (.reason ∈ fs ++ [f]) = (.reason ∈ fs) := by simp [hf.symm]
  have htexts : (fun g => if g = f then some t else if g ∈ fs then d.text? g else none) =
      fun g => if g ∈ fs ++ [f] then d.text? g else none := by
    funext g
    by_cases hg : g = f
    · simp [hg, ht]
    · simp [hg]
  have hput : (d.draft fs).put f (.string t) =
      .ok { d.draft fs with texts := fun g => if g = f then some t else (d.draft fs).texts g } := by
    cases f <;> first | rfl | exact absurd rfl hf
  rw [hput]
  simp only [draft, hreason, htexts]

/-- One more reason. -/
theorem put_reason {r : SkipReason} (hr : d.reason? = some r) :
    (d.draft fs).put .reason r.toJson = .ok (d.draft (fs ++ [.reason])) := by
  have htexts : (fun g => if g ∈ fs then d.text? g else none) =
      fun g => if g ∈ fs ++ [.reason] then d.text? g else none := by
    funext g
    by_cases hg : g = .reason
    · simp [hg, text?_reason]
    · simp [hg]
  rw [Draft.put, ofValue_toJson]
  simp [draft, htexts, hr]

/-- One more field. -/
theorem put_draft (hv : d.field? f = some v) : (d.draft fs).put f v = .ok (d.draft (fs ++ [f])) := by
  by_cases hf : f = .reason
  · subst hf
    obtain ⟨r, hr, rfl⟩ := Option.map_eq_some_iff.1 hv
    exact put_reason hr
  · rw [d.field?_of_ne hf] at hv
    obtain ⟨t, ht, rfl⟩ := Option.map_eq_some_iff.1 hv
    exact put_text hf ht

/-- **All fields make the decision.** -/
theorem finish_draft (h : ∀ f ∈ d.kind.fields, f ∈ fs) : (d.draft fs).finish d.kind = .ok d := by
  cases d
  all_goals
    simp only [kind, Kind.fields, List.mem_cons, List.not_mem_nil, or_false, forall_eq_or_imp, forall_eq] at h
    simp [Draft.finish, Draft.text, draft, kind, text?, reason?, name, h]

/-! ## Members as fields -/

/-- The member carries the value that the decision has for it, if it is a field. -/
def Carries (d : Decision) (x : String × Value) : Prop := ∀ f ∈ d.kind.fields, x.1 = f.key → d.field? f = some x.2

/-- The fields that members name. -/
def named (k : Kind) (xs : List (String × Value)) : List Field :=
  xs.filterMap fun x => k.fields.find? fun f => f.key == x.1

/-- Members that name each field once are made into a draft of these fields. -/
theorem ofMembers_draft {xs : List (String × Value)} (hcarries : ∀ x ∈ xs, d.Carries x)
    (honce : (fs ++ named d.kind xs).Nodup) :
    Draft.ofMembers d.kind (d.draft fs) xs = .ok (d.draft (fs ++ named d.kind xs)) := by
  induction xs generalizing fs with
  | nil => simp [Draft.ofMembers, named]
  | cons x xs ih =>
    have hrest := fun y hy => hcarries y (List.mem_cons_of_mem _ hy)
    rw [Draft.ofMembers]
    cases hfind : d.kind.fields.find? fun f => f.key == x.1 with
    | none =>
      have hnamed : named d.kind (x :: xs) = named d.kind xs := by simp [named, hfind]
      rw [hnamed] at honce ⊢
      exact ih hrest honce
    | some f =>
      have hnamed : named d.kind (x :: xs) = f :: named d.kind xs := by simp [named, hfind]
      have hkey := List.find?_some hfind
      have hmem := List.mem_of_find?_eq_some hfind
      have hv := hcarries x List.mem_cons_self f hmem (eq_of_beq hkey).symm
      have hnew : f ∉ fs := fun hf => by
        rw [hnamed] at honce
        exact (List.nodup_append.1 honce).2.2 f hf f List.mem_cons_self rfl
      rw [hnamed, List.append_cons] at honce ⊢
      simp only [has_draft hnew, put_draft hv, Bool.false_eq_true, if_false]
      exact ih hrest honce

/-- Members that name no field do not count. -/
theorem named_filter {k : Kind} {p : String × Value → Bool} (hp : ∀ x, ∀ f ∈ k.fields, f.key = x.1 → p x = true)
    (xs : List (String × Value)) : named k (xs.filter p) = named k xs := by
  rw [named, List.filterMap_filter]
  refine congrArg (List.filterMap · xs) (funext fun x => ?_)
  split
  · rfl
  · next hx =>
    symm
    rw [List.find?_eq_none]
    intro f hf hkey
    exact hx (hp x f hf (eq_of_beq hkey))

theorem named_members (d : Decision) : named d.kind d.members = d.kind.fields := by
  cases d <;> rfl

theorem Field.key_injective {f g : Field} (h : f.key = g.key) : f = g := by
  cases f <;> cases g <;> first | rfl | exact absurd h (by decide)

theorem Field.key_ne_type (f : Field) : f.key ≠ "type" := by
  cases f <;> decide

/-- The members of the written form carry the values of the decision. -/
theorem carries_members (d : Decision) : ∀ x ∈ d.members, d.Carries x := by
  intro x hx f hf hkey
  obtain rfl | hx := List.mem_cons.1 hx
  · exact absurd hkey.symm f.key_ne_type
  · obtain ⟨g, -, hx⟩ := List.mem_filterMap.1 hx
    obtain ⟨v, hv, rfl⟩ := Option.map_eq_some_iff.1 hx
    rwa [← Field.key_injective hkey]

/-! ## The type and the other members -/

/-- The type and the other members, after a member of an object. -/
def takeMember (s : Option Kind × List (String × Value)) (key : String) (v : Spelling) :
    Except Error (Option Kind × List (String × Value)) :=
  if key = "type" then
    if s.1.isSome then .error (.duplicateField "type")
    else (fun k => (some k, s.2)) <$> (v.string? "variant identifier" >>= Kind.ofTag)
  else (fun x => (s.1, (key, x) :: s.2)) <$> v.value

theorem readsMember_memberReader {v : Spelling} (hd : v.depth ≤ Json.depthLimit - 1)
    (s : Option Kind × List (String × Value)) (key : String) :
    ReadsMember (memberReader s key) v (takeMember s key v) := by
  unfold memberReader takeMember
  split
  · split
    · exact Json.readsMember_fail _ v
    · exact ((Json.reads_string _ v).check _).afterColon.map _
  · exact (Json.reads_value _ v hd).afterColon.map _

/-- **An object is read member by member,** and then its members are made into a decision. -/
theorem ofJson_object {doc : Document} {xs : List (String × Spelling)} (h : doc.value.HasMembers xs)
    (hd : doc.value.depth ≤ Json.depthLimit) :
    ofJson doc.text = (xs.foldlM (fun s m => takeMember s m.1 m.2) (none, [])) >>= ofMembers := by
  have hmember (x) (hx : x ∈ xs) (s) :=
    readsMember_memberReader (Nat.le_sub_one_of_lt (Nat.lt_of_lt_of_le (h.depth_lt hx) hd)) s x.1
  refine Reads.parse (Json.reads_object (fun b cs => ?_) h hmember)
  rw [reader, Reader.view_afterBlanks, b.skip, Json.skipBlanks_of_not_blank rfl]
  exact Reader.view_past ..

theorem ofTag_tag (k : Kind) : Kind.ofTag k.tag = .ok k := by
  cases k <;> rfl

/-- The member of the type. -/
def typeMember (k : Kind) : String × Value := ("type", .string k.tag)

theorem typeMember_injective {k k' : Kind} (h : typeMember k = typeMember k') : k = k' := by
  have htag : k.tag = k'.tag := by simpa [typeMember] using h
  have hread := ofTag_tag k
  rw [htag, ofTag_tag] at hread
  exact (Except.ok.inj hread).symm

theorem takeMember_type {k : Kind} {read : List (String × Value)} {v : Spelling} (hv : v.value = .ok (.string k.tag)) :
    takeMember (none, read) "type" v = .ok (some k, read) := by
  simp [takeMember, Json.string?_of_value _ hv, ofTag_tag]

theorem takeMember_other {o : Option Kind} {read : List (String × Value)} {key : String} {v : Spelling} {x : Value}
    (hkey : key ≠ "type") (hv : v.value = .ok x) : takeMember (o, read) key v = .ok (o, (key, x) :: read) := by
  simp [takeMember, hkey, hv]

/-- Of the members that are read, and those that come, one is the type. -/
theorem foldlM_takeMember {k : Kind} {o : Option Kind} {ms : List (String × Spelling)} {xs read : List (String × Value)}
    (hvalues : (ms.map fun m => (m.1, m.2.value)) = xs.map fun x => (x.1, .ok x.2))
    (htype : o.toList.map typeMember ++ xs.filter (·.1 == "type") = [typeMember k]) :
    ms.foldlM (fun s m => takeMember s m.1 m.2) (o, read) =
      .ok (some k, (xs.filter (·.1 != "type")).reverse ++ read) := by
  induction ms generalizing o xs read with
  | nil =>
    obtain rfl : xs = [] := by simpa using hvalues.symm
    obtain rfl : o = some k := by
      cases o with
      | none => cases htype
      | some k' =>
        rw [typeMember_injective (List.cons.inj htype).1]
    rfl
  | cons m ms ih =>
    cases xs with
    | nil => cases hvalues
    | cons x xs =>
      simp only [List.map_cons, List.cons.injEq, Prod.mk.injEq] at hvalues
      obtain ⟨⟨hname, hv⟩, hrest⟩ := hvalues
      rw [List.foldlM_cons]
      by_cases hkey : x.1 = "type"
      · cases o with
        | some k' => simp [hkey] at htype
        | none =>
          simp only [Option.toList_none, List.map_nil, List.nil_append, List.filter_cons, hkey, beq_self_eq_true, if_true,
            List.cons.injEq] at htype
          obtain ⟨rfl, hnone⟩ := htype
          rw [hname, hkey, takeMember_type hv, Json.ok_bind, ih hrest]
          · simp [hkey]
          · simp [hnone]
      · rw [takeMember_other (hname ▸ hkey) hv, Json.ok_bind, ih hrest]
        · simp [hkey, hname]
        · simpa [hkey] using htype

/-! ## Texts of a decision -/

/-- The keys that are not passed over. -/
def keys (d : Decision) : List String := "type" :: d.kind.fields.map Field.key

theorem key_mem_keys (hf : f ∈ d.kind.fields) : f.key ∈ d.keys :=
  List.mem_cons_of_mem _ (List.mem_map_of_mem hf)

theorem Kind.nodup_fields (k : Kind) : k.fields.Nodup := by
  cases k <;> decide

section Perm

variable {xs : List (String × Value)} (hxs : (xs.filter (·.1 ∈ d.keys)).Perm d.members)

include hxs

/-- The type comes once. -/
theorem filter_type_of_perm : xs.filter (·.1 == "type") = [typeMember d.kind] := by
  have hmembers : d.members.filter (·.1 == "type") = [typeMember d.kind] := by
    cases d <;> rfl
  have hfilter : (xs.filter (·.1 ∈ d.keys)).filter (·.1 == "type") = xs.filter (·.1 == "type") := by
    rw [List.filter_filter]
    refine List.filter_congr fun x _ => ?_
    by_cases hx : x.1 = "type" <;> simp [hx, keys]
  have hperm := hxs.filter (·.1 == "type")
  rwa [hmembers, hfilter, List.perm_singleton] at hperm

/-- Each field comes once. -/
theorem named_perm : (named d.kind (xs.filter (·.1 != "type"))).Perm d.kind.fields := by
  have hothers : named d.kind (xs.filter (·.1 != "type")) = named d.kind xs :=
    named_filter (fun x f _ hf => by simp [← hf, f.key_ne_type]) xs
  have hknown : named d.kind (xs.filter (·.1 ∈ d.keys)) = named d.kind xs :=
    named_filter (fun x f hmem hf => by simp [← hf, key_mem_keys hmem]) xs
  rw [hothers, ← hknown, ← named_members d]
  exact hxs.filterMap _

theorem carries_of_perm : ∀ x ∈ xs, d.Carries x := by
  intro x hx f hf hkey
  have hknown : x ∈ xs.filter (·.1 ∈ d.keys) := by
    simp [hx, hkey, key_mem_keys hf]
  exact carries_members d x (hxs.mem_iff.1 hknown) f hf hkey

/-- **The members of a decision in any order, with others among them,** are read as the decision. -/
theorem ofJson_of_perm {doc : Document} (hd : doc.value.depth ≤ Json.depthLimit)
    (hdoc : doc.value.value = .ok (.object xs)) : ofJson doc.text = .ok d := by
  obtain ⟨ms, hms, hvalues⟩ := Spelling.exists_hasMembers hdoc
  have hread : ms.foldlM (fun s m => takeMember s m.1 m.2) (none, []) =
      .ok (some d.kind, (xs.filter (·.1 != "type")).reverse ++ []) :=
    foldlM_takeMember hvalues (filter_type_of_perm hxs)
  have hfields := named_perm hxs
  have hdraft : Draft.ofMembers d.kind (d.draft []) (xs.filter (·.1 != "type")) = _ :=
    ofMembers_draft (fun x hx => carries_of_perm hxs x (List.mem_of_mem_filter hx))
      (hfields.nodup_iff.2 d.kind.nodup_fields)
  have hempty : d.draft [] = .empty := rfl
  rw [ofJson_object hms hd, hread, Json.ok_bind, ofMembers, List.append_nil, List.reverse_reverse, ← hempty, hdraft]
  exact finish_draft fun f hf => hfields.mem_iff.2 hf

end Perm

theorem exists_string_of_field? (hv : d.field? f = some v) : ∃ t, v = .string t := by
  by_cases hf : f = .reason
  · subst hf
    obtain ⟨r, -, rfl⟩ := Option.map_eq_some_iff.1 hv
    exact ⟨r.tag, rfl⟩
  · rw [d.field?_of_ne hf] at hv
    obtain ⟨t, -, rfl⟩ := Option.map_eq_some_iff.1 hv
    exact ⟨t, rfl⟩

/-- The written form consists of texts under its own keys. -/
theorem mem_members {x : String × Value} (hx : x ∈ d.members) : x.1 ∈ d.keys ∧ ∃ t, x.2 = .string t := by
  obtain rfl | hx := List.mem_cons.1 hx
  · exact ⟨List.mem_cons_self, _, rfl⟩
  · obtain ⟨f, hf, hx⟩ := List.mem_filterMap.1 hx
    obtain ⟨v, hv, rfl⟩ := Option.map_eq_some_iff.1 hx
    exact ⟨key_mem_keys hf, exists_string_of_field? hv⟩

/-- **Decisions are read back.** The compact text of a decision is read as the decision. So is every text of an object
with the same members in any order, with members of other names among them whose values can be read, and spelled in any
way. -/
theorem ofJson_of_members (d : Decision) :
    ofJson d.toJson.text = .ok d ∧
      ∀ (doc : Document) (xs ms : List (String × Value)), doc.value.value = .ok (.object xs) →
        doc.value.depth ≤ Json.depthLimit → d.toJson = .object ms → (xs.filter (·.1 ∈ d.keys)).Perm ms →
        ofJson doc.text = .ok d := by
  constructor
  · have hspelled : d.toJson.Spelled 1 := by
      rw [toJson_eq]
      refine Json.spelled_object fun x hx => ?_
      obtain ⟨t, ht⟩ := (mem_members hx).2
      rw [ht]
      exact Json.spelled_string t 0
    have hown : d.members.filter (·.1 ∈ d.keys) = d.members :=
      List.filter_eq_self.2 fun x hx => by simp [(mem_members hx).1]
    obtain ⟨doc, hdoc, hvalue, hdepth⟩ := hspelled.exists_document
    rw [← hdoc]
    rw [toJson_eq] at hvalue
    exact ofJson_of_perm (by rw [hown]) (Nat.le_trans hdepth (by decide)) hvalue
  · intro doc xs ms hvalue hdepth hms hxs
    rw [toJson_eq] at hms
    cases hms
    exact ofJson_of_perm hxs hdepth hvalue

/-- An object with the type of a decision between its fields, and something else. -/
def injectDocument : Document where
  before := .none
  value := .object
    (.cons ⟨.none, Glyph.plains "value", .none⟩ .none
      (.string [.letter 'n' '\n' rfl]) .none
      (.cons ⟨.space, Glyph.plains "type", .none⟩ .none (.string (Glyph.plains "inject_env")) .none
        (.cons ⟨.none, Glyph.plains "note", .none⟩ .none (.array (.one .none .null .none)) .none
          (.one ⟨.none, Glyph.plains "name", .none⟩ .none (.string (Glyph.plains "TAG")) .none))))
  after := .none

theorem ofJson_of_members_inject :
    injectDocument.text =
        "\x7b\"value\":\"\\n\", \"type\":\"inject_env\",\"note\":[null],\"name\":\"TAG\"\x7d" ∧
      ofJson injectDocument.text = .ok (inject "TAG" "\n") := by
  refine ⟨by decide, (ofJson_of_members (inject "TAG" "\n")).2 injectDocument
    [("value", .string "\n"), ("type", .string "inject_env"), ("note", .array [.null]), ("name", .string "TAG")] _ rfl
    (by decide) rfl ?_⟩
  exact @List.perm_append_comm _ [("value", Value.string "\n")]
    [("type", Value.string "inject_env"), ("name", Value.string "TAG")]

end CiMessage.Decision
