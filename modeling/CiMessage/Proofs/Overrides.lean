import CiMessage.Proofs.AcceptedConfig
import CiMessage.Proofs.Reading

/-!
# Layers of a configuration

A layer says something about some fields of a configuration (`Config.Draft`). Put over a configuration, it leaves the
fields of which it says nothing (`Draft.over`). There are two kinds of layers: the fields that a JSON text lists, over the
defaults (`ofJson_eq`), and the values of overrides, over any configuration (`override_of_usable`).

Of the overrides that are set to texts, the first one in their order whose text cannot be used is reported
(`override_of_firstRefused`). If there is none (`usable_or_firstRefused`), all of them are applied. When only one is set,
it is applied or reported (`override_only`).
-/

namespace CiMessage.Config

open Json (Reader view)

/-! ## Layers -/

deriving instance DecidableEq for Draft

/-- The fields of a layer, and those of a configuration where it has none. -/
def Draft.over (d : Draft) (c : Config) : Config :=
  ⟨d.redirectEnabled.getD c.redirectEnabled, d.verifyAfterWrite.getD c.verifyAfterWrite,
    d.workspaceSubdir.getD c.workspaceSubdir⟩

/-- Reads the fields that are listed. -/
def Draft.reader : Reader Draft := Reader.afterBlanks fun cs =>
  match cs with
  | [] => .error .endInValue
  | '\x7b' :: rest => (Reader.members Draft.memberReader .empty).past '\x7b' rest
  | '[' :: rest => (Reader.placed itemReaders .empty fun d _ => .ok d).past '[' rest
  | cs => .error (Json.wrongTypeAt "struct ContributorConfig" cs)

/-- The fields that a JSON text lists. -/
def listed (text : String) : Except Json.Error Draft := Draft.reader.parse text

theorem view_reader (cs : List Char) : view (reader cs) = view (Draft.reader.map Draft.finish cs) := by
  unfold reader Draft.reader
  rw [Reader.view_afterBlanks, Reader.view_map, Reader.view_afterBlanks]
  cases Json.skipBlanks cs with
  | nil => rfl
  | cons c ds =>
    by_cases hbrace : c = '\x7b'
    · subst hbrace
      simp only [Reader.view_past, Reader.view_map]
    by_cases hbracket : c = '['
    · subst hbracket
      simp only [Reader.view_past, Reader.view_placed_map itemReaders .empty Draft.finish]
    · simp [hbrace, hbracket]

/-- **A JSON text is the layer of the fields that it lists,** over the defaults. -/
theorem ofJson_eq (text : String) :
    ofJson text =
      match listed text with
      | .ok d => (d.over default).validate
      | .error e => .error (.json e) := by
  rw [ofJson, Reader.parse_congr (view_reader _), Reader.parse_map, listed]
  cases Draft.reader.parse text <;> rfl

namespace Override

/-! ## Texts for overrides -/

/-- Texts that some overrides are set to. -/
abbrev Assignment := Override → Option String

/-- Can the text be used for the override? -/
def accepts (o : Override) (raw : String) : Bool :=
  match o with
  | redirect | verify => (boolean? raw).isSome
  | subdir => (subdir? raw).isSome

/-- The layer of the values that the texts stand for. -/
def values (a : Assignment) : Draft :=
  ⟨(a redirect).bind boolean?, (a verify).bind boolean?, (a subdir).bind subdir?⟩

/-- All texts can be used. -/
def Usable (a : Assignment) : Prop := ∀ o raw, a o = some raw → o.accepts raw = true

/-- This override is the first one, in their order, whose text cannot be used. -/
structure FirstRefused (a : Assignment) (o : Override) (raw : String) : Prop where
  assigned : a o = some raw
  refused : o.accepts raw = false
  earlier : ∀ o' ∈ all.takeWhile (· != o), ∀ raw', a o' = some raw' → o'.accepts raw' = true

theorem mem_all (o : Override) : o ∈ all := by
  cases o <;> decide

/-- The configuration with the value of an override, if there is one. -/
def put (a : Assignment) (c : Config) : Override → Config
  | redirect => { c with redirectEnabled := ((a redirect).bind boolean?).getD c.redirectEnabled }
  | verify => { c with verifyAfterWrite := ((a verify).bind boolean?).getD c.verifyAfterWrite }
  | subdir => { c with workspaceSubdir := ((a subdir).bind subdir?).getD c.workspaceSubdir }

theorem foldl_put (a : Assignment) (c : Config) : all.foldl (put a) c = (values a).over c := by
  rw [all, List.foldl_cons, List.foldl_cons, List.foldl_cons, List.foldl_nil]
  rfl

theorem put_of_none {a : Assignment} {o : Override} (h : a o = none) (c : Config) : put a c o = c := by
  cases o <;> simp [put, h]

theorem set?_of_accepts {a : Assignment} {o : Override} {raw : String} (h : a o = some raw)
    (hu : o.accepts raw = true) (c : Config) : o.set? raw c = some (put a c o) := by
  cases o
  all_goals
    simp only [accepts] at hu
    obtain ⟨v, hv⟩ := Option.isSome_iff_exists.1 hu
    simp [set?, put, h, hv]

theorem set?_of_refused {o : Override} {raw : String} (hr : o.accepts raw = false) (c : Config) :
    o.set? raw c = none := by
  cases o <;> simpa [set?, accepts] using hr

/-! ## Overrides in their order -/

variable {lookup : String → Option String} {l m : List Override} {o : Override} {raw : String} {c : Config}

/-- Overrides that are not set, or set to texts that can be used, are applied one after the other. -/
theorem applyAll_append (h : ∀ o ∈ l, ∀ raw, lookup o.key = some raw → o.accepts raw = true) :
    (applyAll lookup c (l ++ m)).1 =
      (applyAll lookup (l.foldl (put fun o => lookup o.key) c) m).1 := by
  induction l generalizing c with
  | nil => rfl
  | cons o l ih =>
    have hrest := fun o' ho' => h o' (List.mem_cons_of_mem o ho')
    rw [List.cons_append, applyAll, List.foldl_cons]
    cases ho : lookup o.key with
    | none =>
      rw [put_of_none (a := fun o => lookup o.key) ho]
      exact ih hrest
    | some raw =>
      simp only [set?_of_accepts (a := fun o => lookup o.key) ho (h o List.mem_cons_self raw ho)]
      exact ih hrest

/-- **The first text that cannot be used is reported** as it is, under the name of its variable. -/
theorem override_of_firstRefused {base : Config} (h : FirstRefused (fun o => lookup o.key) o raw) :
    base.override lookup = .error (.invalidValue o.key raw) := by
  have hall : all = all.takeWhile (· != o) ++ o :: (all.dropWhile (· != o)).tail := by
    cases o <;> rfl
  have hrefused : (applyAll lookup base all).1 = .error (.invalidValue o.key raw) := by
    rw [hall, applyAll_append h.earlier, applyAll]
    simp only [h.assigned, set?_of_refused h.refused]
  rw [Config.override, hrefused]

/-- **Texts that can all be used are applied,** and the configuration is validated with them. -/
theorem override_of_usable {base : Config} (h : Usable fun o => lookup o.key) :
    base.override lookup = ((values fun o => lookup o.key).over base).validate := by
  have happly := applyAll_append (l := all) (m := []) (c := base) fun o _ => h o
  rw [List.append_nil, foldl_put] at happly
  rw [Config.override, happly]
  rfl

theorem usable_or_first (a : Assignment) (l : List Override) :
    (∀ o ∈ l, ∀ raw, a o = some raw → o.accepts raw = true) ∨
      ∃ o raw, a o = some raw ∧ o.accepts raw = false ∧
        ∀ o' ∈ l.takeWhile (· != o), ∀ raw', a o' = some raw' → o'.accepts raw' = true := by
  induction l with
  | nil => exact .inl fun _ ho => absurd ho List.not_mem_nil
  | cons x l ih =>
    by_cases hx : ∀ raw, a x = some raw → x.accepts raw = true
    · obtain hl | ⟨o, raw, ho, hr, hfirst⟩ := ih
      · exact .inl fun o ho => (List.mem_cons.1 ho).elim (fun h => h ▸ hx) (hl o)
      · refine .inr ⟨o, raw, ho, hr, fun o' ho' => ?_⟩
        have hne : (x != o) = true := by
          rw [bne_iff_ne]
          rintro rfl
          rw [hx raw ho] at hr
          cases hr
        rw [List.takeWhile_cons, if_pos hne] at ho'
        exact (List.mem_cons.1 ho').elim (fun h => h ▸ hx) (hfirst o')
    · push Not at hx
      obtain ⟨raw, ho, hr⟩ := hx
      refine .inr ⟨x, raw, ho, by simpa using hr, fun o' ho' => ?_⟩
      simp at ho'

/-- Either all texts can be used, or there is a first one that cannot. -/
theorem usable_or_firstRefused (a : Assignment) : Usable a ∨ ∃ o raw, FirstRefused a o raw := by
  obtain h | ⟨o, raw, ho, hr, hfirst⟩ := usable_or_first a all
  · exact .inl fun o => h o (mem_all o)
  · exact .inr ⟨o, raw, ho, hr, hfirst⟩

/-! ## One override -/

theorem key_inj {o o' : Override} : o.key = o'.key ↔ o = o' := by
  constructor
  · cases o <;> cases o' <;> simp [key]
  · rintro rfl
    rfl

/-- Only this override is set. -/
def only (o : Override) (raw : String) (key : String) : Option String := if key = o.key then some raw else none

theorem only_key (o o' : Override) (raw : String) : only o raw o'.key = if o' = o then some raw else none := by
  simp only [only, key_inj]

/-- **One override alone** is applied and the configuration is validated then, or its text is reported. -/
theorem override_only (o : Override) (raw : String) (base : Config) :
    base.override (only o raw) =
      match o.set? raw base with
      | some c => c.validate
      | none => .error (.invalidValue o.key raw) := by
  cases o
  all_goals
    simp only [Config.override, all, applyAll, only_key, if_true, reduceCtorEq, if_false]
    cases set? _ raw base <;> rfl

end Override

end CiMessage.Config
