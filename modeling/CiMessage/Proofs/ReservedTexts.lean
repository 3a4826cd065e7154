import CiMessage.Proofs.Spelling.Compact
import CiMessage.Proofs.Spelling.Containers
import CiMessage.Proofs.Utf8
import CiMessage.ReservedNames
import Mathlib.Data.Finset.Card

/-!
# One form for each set of names

A list of names is taken name by name, and what counts in the end is which names it holds (`contains_ofList`). Sets with
the same names are the same (`ext_contains`), so lists with the same members make the same set (`ofList_eq_ofList_iff`),
and a set is made again from its own listing (`ofList_toList`).

An array of names is read item by item, in the way a list is taken (`reads_reader`). So every text of it, however it is
spelled, is read as the set of the list (`ofJson_of_items`). The text of a set is one of its listing, hence a form of the
set that no other set has (`ofParams_canonical`).
-/

namespace CiMessage.ReservedNames

open Json (Document Error Glyph Reader Reads Spelling Value view)

variable {r r' : ReservedNames} {names names' : List String} {name : String}

/-! ## Sets of names -/

theorem contains_foldl_insert : (names.foldl insert r).contains name = true ↔ name ∈ names ∨ r.contains name = true := by
  induction names generalizing r with
  | nil => simp
  | cons first rest ih =>
    rw [List.foldl_cons, ih, contains_insert, Bool.or_eq_true, decide_eq_true_iff, List.mem_cons, ← or_assoc,
      or_comm (a := name ∈ rest)]

/-- **A list reserves its members.** -/
theorem contains_ofList : (ofList names).contains name = true ↔ name ∈ names := by
  rw [ofList, contains_foldl_insert]
  exact or_iff_left Bool.false_ne_true

/-- **Sets with the same names are the same.** -/
theorem ext_contains (h : ∀ name, r.contains name = true ↔ r'.contains name = true) : r = r' := by
  obtain ⟨table⟩ := r
  obtain ⟨table'⟩ := r'
  have htable : table = table' := by
    refine SortedMap.ext_get? fun name => ?_
    have hname := Bool.eq_iff_iff.2 (h name)
    simp only [contains, SortedMap.contains] at hname
    cases hx : table.get? name <;> cases hx' : table'.get? name <;> simp [hx, hx'] at hname ⊢
  rw [htable]

theorem mem_toList : name ∈ r.toList ↔ r.contains name = true := SortedMap.mem_keys_iff

theorem ofList_eq_ofList_iff : ofList names = ofList names' ↔ ∀ name, name ∈ names ↔ name ∈ names' := by
  constructor
  · intro h name
    rw [← contains_ofList, h, contains_ofList]
  · intro h
    refine ext_contains fun name => ?_
    rw [contains_ofList, contains_ofList, h name]

/-- A set is that of its listing. -/
theorem ofList_toList (r : ReservedNames) : ofList r.toList = r :=
  ext_contains fun _ => contains_ofList.trans mem_toList

/-- The size of a set is the number of different names in the list. -/
theorem size_ofList : (ofList names).size = names.toFinset.card := by
  have hmembers : (ofList names).toList.toFinset = names.toFinset := by
    ext name
    rw [List.mem_toFinset, List.mem_toFinset, mem_toList, contains_ofList]
  calc (ofList names).size = (ofList names).toList.length := (List.length_map ..).symm
    _ = (ofList names).toList.toFinset.card := (List.toFinset_card_of_nodup (ofList names).table.nodup_keys).symm
    _ = names.toFinset.card := by rw [hmembers]

/-! ## Texts of a set -/

/-- The names so far, after an item of an array. -/
def take (r : ReservedNames) (v : Spelling) : Except Error ReservedNames := r.insert <$> v.string? "a string"

theorem foldlM_take {vs : List Spelling} (h : vs.map Spelling.value = names.map fun name => .ok (.string name))
    (r : ReservedNames) : vs.foldlM take r = .ok (names.foldl insert r) := by
  induction names generalizing vs r with
  | nil =>
    rw [List.map_eq_nil_iff.1 h]
    rfl
  | cons name rest ih =>
    obtain ⟨v, vs, rfl, hv, hvs⟩ := List.map_eq_cons_iff.1 h
    have hname := Json.string?_of_value "a string" hv
    simp [take, hname, ih hvs]

/-- **An array of names is read as the set of the list.** -/
theorem reads_reader {v : Spelling} (h : v.value = .ok (.array (names.map .string))) :
    Reads reader v (.ok (ofList names)) := by
  obtain ⟨vs, hvs, hvalues⟩ := Spelling.exists_hasItems h
  rw [List.map_map] at hvalues
  rw [ofList, ← foldlM_take hvalues]
  have hstep (v) (_ : v ∈ vs) (r : ReservedNames) := (Json.reads_string "a string" v).map r.insert
  refine Json.reads_array (fun b cs => ?_) hvs hstep
  rw [reader, Reader.view_afterBlanks, b.skip, Json.skipBlanks_of_not_blank rfl]
  exact Reader.view_past ..

theorem ofJson_of_items {doc : Document} (h : doc.value.value = .ok (.array (names.map .string))) :
    ofJson doc.text = .ok (ofList names) :=
  (reads_reader h).parse

/-- The compact text of an array of names is a text of it. -/
theorem ofJson_array (names : List String) : ofJson (Value.array (names.map .string)).text = .ok (ofList names) := by
  have hspelled : (Value.array (names.map .string)).Spelled 1 := by
    refine Json.spelled_array fun v hv => ?_
    obtain ⟨name, -, rfl⟩ := List.mem_map.1 hv
    exact Json.spelled_string ..
  obtain ⟨doc, hdoc, hvalue, -⟩ := hspelled.exists_document
  rw [← hdoc]
  exact ofJson_of_items hvalue

/-- **A set is read back from its text.** -/
theorem ofJson_toJson (r : ReservedNames) : ofJson r.toJson.text = .ok r := by
  rw [toJson, ofJson_array, ofList_toList]

theorem text_toJson_inj : r.toJson.text = r'.toJson.text ↔ r = r' := by
  constructor
  · intro h
    have hread := ofJson_toJson r
    rw [h, ofJson_toJson] at hread
    exact (Except.ok.inj hread).symm
  · rintro rfl
    rfl

/-- **Reserved names have one form,** whatever list they come from and on whichever way. A list of parameters and any text
of an array with the same names make the same set; it has the names of the list, each of them once; its JSON value is the
array of these names in the order of their bytes, and the text of that is read as the set. Two lists come to the same text
when they have the same members. Without a list there are no names. -/
theorem ofParams_canonical (names : List String) :
    let r := ofParams (some names)
    (∀ doc : Document, doc.value.value = .ok (.array (names.map .string)) → ofJson doc.text = .ok r) ∧
      ofJson (Value.array (names.map .string)).text = .ok r ∧
      (∀ name, r.contains name = true ↔ name ∈ names) ∧
      r.size = names.toFinset.card ∧
      (∃ listed : List String, r.toJson = .array (listed.map .string) ∧
        listed.Pairwise (fun a b => Utf8.encode a < Utf8.encode b) ∧ ∀ name, name ∈ listed ↔ name ∈ names) ∧
      ofJson r.toJson.text = .ok r ∧
      (∀ names', (ofParams (some names')).toJson.text = r.toJson.text ↔ ∀ name, name ∈ names' ↔ name ∈ names) ∧
      ofParams none = empty ∧ ∀ name, (ofParams none).contains name = false := by
  intro r
  have hlisted : ∀ name, name ∈ r.toList ↔ name ∈ names := fun _ => mem_toList.trans contains_ofList
  exact ⟨fun _ => ofJson_of_items, ofJson_array names, fun _ => contains_ofList, size_ofList,
    ⟨r.toList, rfl, r.table.pairwise_encode_keys, hlisted⟩, ofJson_toJson r,
    fun _ => text_toJson_inj.trans ofList_eq_ofList_iff, rfl, fun _ => rfl⟩

/-- An array of names with white space in it, a repeated name, a name that is escaped and one with a quote in it. -/
def namesDocument : Document where
  before := .none
  value := .array
    (.cons .space (.string (Glyph.plains "B")) .space
      (.cons .none (.string [.number '0' '0' '4' '1' 0x41 rfl]) .none
        (.cons .none (.string (Glyph.plains "B")) .none
          (.one .none (.string [.letter '"' '"' rfl]) .none))))
  after := .none

theorem ofParams_canonical_of_four :
    let r := ofParams (some ["B", "A", "B", "\""])
    namesDocument.text = "[ \"B\" ,\"\\u0041\",\"B\",\"\\\"\"]" ∧ ofJson namesDocument.text = .ok r ∧
      r.size = 3 ∧ r.toJson.text = "[\"\\\"\",\"A\",\"B\"]" ∧ ofJson r.toJson.text = .ok r ∧
      (ofParams (some ["\"", "A", "B"])).toJson.text = r.toJson.text := by
  intro r
  obtain ⟨hdocument, -, -, hsize, -, hread, hsame, -⟩ := ofParams_canonical ["B", "A", "B", "\""]
  exact ⟨by decide, hdocument namesDocument rfl, hsize, by decide, hread, (hsame _).2 (by simp; tauto)⟩

end CiMessage.ReservedNames
