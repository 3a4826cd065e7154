/-!
# Maps kept as ascending lists

`SortedMap κ ν` is a finite map whose entries are listed in strictly ascending order of their keys. Each map has one
listing, so two maps with the same lookups are equal (`SortedMap.ext_get?`). The main statements give every operation
through its lookups: `get?_insert`, `get?_erase`, `get?_ofList`.
-/

namespace CiMessage

/-- A finite map, listed in strictly ascending order of its keys. -/
structure SortedMap (κ ν : Type) [Ord κ] where
  entries : List (κ × ν)
  ascending : entries.Pairwise fun a b => compare a.1 b.1 = .lt

namespace SortedMap

variable {κ ν : Type} [Ord κ]

instance [DecidableEq κ] [DecidableEq ν] : DecidableEq (SortedMap κ ν) := fun a b =>
  decidable_of_iff (a.entries = b.entries) (by cases a; cases b; simp)

/-- The map without entries. -/
def empty : SortedMap κ ν := ⟨[], .nil⟩

instance : EmptyCollection (SortedMap κ ν) := ⟨empty⟩

instance : Inhabited (SortedMap κ ν) := ⟨empty⟩

/-- The keys in ascending order. -/
def keys (m : SortedMap κ ν) : List κ := m.entries.map (·.1)

/-- The number of keys. -/
def size (m : SortedMap κ ν) : Nat := m.entries.length

/-- Is the map without entries? -/
def isEmpty (m : SortedMap κ ν) : Bool := m.entries.isEmpty

/-! ## Lookup -/

/-- The value of the first entry with a key. -/
def lookup [DecidableEq κ] (k : κ) : List (κ × ν) → Option ν
  | [] => none
  | (k', v) :: rest => if k = k' then some v else lookup k rest

/-- The value of a key. -/
def get? [DecidableEq κ] (m : SortedMap κ ν) (k : κ) : Option ν := lookup k m.entries

/-- Has the map a value for this key? -/
def contains [DecidableEq κ] (m : SortedMap κ ν) (k : κ) : Bool := (m.get? k).isSome

/-! ## Insertion and removal -/

/-- Puts an entry in its place, over an entry with the same key. -/
def insertEntry (k : κ) (v : ν) : List (κ × ν) → List (κ × ν)
  | [] => [(k, v)]
  | (k', v') :: rest =>
    match compare k k' with
    | .lt => (k, v) :: (k', v') :: rest
    | .eq => (k, v) :: rest
    | .gt => (k', v') :: insertEntry k v rest

/-- An inserted list holds the new entry and old ones only. -/
theorem mem_insertEntry {k : κ} {v : ν} {e : κ × ν} {l : List (κ × ν)} :
    e ∈ insertEntry k v l → e = (k, v) ∨ e ∈ l := by
  induction l with
  | nil => simp [insertEntry]
  | cons a rest ih =>
    obtain ⟨k', v'⟩ := a
    rw [insertEntry]
    split <;> simp only [List.mem_cons] <;> grind

/-- Insertion keeps the order. -/
theorem pairwise_insertEntry [Std.TransOrd κ] [Std.LawfulEqOrd κ] (k : κ) (v : ν) {l : List (κ × ν)}
    (h : l.Pairwise fun a b => compare a.1 b.1 = .lt) :
    (insertEntry k v l).Pairwise fun a b => compare a.1 b.1 = .lt := by
  induction l with
  | nil => simp [insertEntry]
  | cons a rest ih =>
    obtain ⟨k', v'⟩ := a
    have hr := List.pairwise_cons.1 h
    rw [insertEntry]
    split
    · next hlt =>
      refine List.pairwise_cons.2 ⟨fun b hb => ?_, h⟩
      rcases List.mem_cons.1 hb with rfl | hb
      · exact hlt
      · exact Std.TransCmp.lt_trans hlt (hr.1 b hb)
    · next heq =>
      have : k = k' := Std.LawfulEqCmp.eq_of_compare heq
      subst this
      exact List.pairwise_cons.2 ⟨hr.1, hr.2⟩
    · next hgt =>
      refine List.pairwise_cons.2 ⟨fun b hb => ?_, ih hr.2⟩
      rcases mem_insertEntry hb with rfl | hb
      · exact Std.OrientedCmp.gt_iff_lt.1 hgt
      · exact hr.1 b hb

/-- Sets the value of a key. -/
def insert [Std.TransOrd κ] [Std.LawfulEqOrd κ] (m : SortedMap κ ν) (k : κ) (v : ν) : SortedMap κ ν :=
  ⟨insertEntry k v m.entries, pairwise_insertEntry k v m.ascending⟩

/-- Keeps the entries that pass a test. -/
def filter (p : κ → ν → Bool) (m : SortedMap κ ν) : SortedMap κ ν :=
  ⟨m.entries.filter fun e => p e.1 e.2, m.ascending.filter _⟩

/-- Removes a key. -/
def erase [DecidableEq κ] (m : SortedMap κ ν) (k : κ) : SortedMap κ ν :=
  m.filter fun k' _ => decide (k ≠ k')

/-- The map of a list of entries, of which the last one with a key counts. -/
def ofList [Std.TransOrd κ] [Std.LawfulEqOrd κ] (l : List (κ × ν)) : SortedMap κ ν :=
  l.foldl (fun m e => m.insert e.1 e.2) ∅

/-! ## Laws -/

section Laws

variable [DecidableEq κ]

@[simp] theorem get?_empty (k : κ) : (∅ : SortedMap κ ν).get? k = none := rfl

omit [Ord κ] in
/-- A key that is not listed is not found. -/
theorem lookup_eq_none_of_not_mem {k : κ} {l : List (κ × ν)} (h : k ∉ l.map (·.1)) : lookup k l = none := by
  induction l with
  | nil => rfl
  | cons a rest ih =>
    rw [List.map_cons, List.mem_cons, not_or] at h
    rw [lookup, if_neg h.1, ih h.2]

omit [Ord κ] in
/-- A key is found when it is listed. -/
theorem isSome_lookup_iff {k : κ} {l : List (κ × ν)} : (lookup k l).isSome = true ↔ k ∈ l.map (·.1) := by
  induction l with
  | nil => simp [lookup]
  | cons a rest ih =>
    rw [List.map_cons, List.mem_cons, ← ih, lookup]
    by_cases hk : k = a.1 <;> simp [hk]

omit [Ord κ] in
/-- A key is looked up in the first list, and then in the second. -/
theorem lookup_append (k : κ) (l₁ l₂ : List (κ × ν)) : lookup k (l₁ ++ l₂) = (lookup k l₁).or (lookup k l₂) := by
  induction l₁ with
  | nil => simp [lookup]
  | cons a rest ih => by_cases hk : k = a.1 <;> simp [lookup, hk, ih]

omit [Ord κ] in
/-- The value of a key is that of the first entry with it. -/
theorem lookup_eq_some_iff {k : κ} {v : ν} {l : List (κ × ν)} :
    lookup k l = some v ↔ ∃ before after, l = before ++ (k, v) :: after ∧ ∀ e ∈ before, e.1 ≠ k := by
  constructor
  · intro h
    induction l with
    | nil => cases h
    | cons a rest ih =>
      rw [lookup] at h
      split at h
      · next hk =>
        cases h
        exact ⟨[], rest, by rw [hk]; rfl, fun _ he => nomatch he⟩
      · next hk =>
        obtain ⟨before, after, rfl, hbefore⟩ := ih h
        exact ⟨a :: before, after, rfl, List.forall_mem_cons.2 ⟨Ne.symm hk, hbefore⟩⟩
  · rintro ⟨before, after, rfl, hbefore⟩
    have hnone : lookup k before = none := lookup_eq_none_of_not_mem fun hk => by
      obtain ⟨e, he, rfl⟩ := List.mem_map.1 hk
      exact hbefore e he rfl
    rw [lookup_append, hnone, Option.none_or, lookup, if_pos rfl]

theorem lookup_insertEntry [Std.LawfulEqOrd κ] (k : κ) (v : ν) (x : κ) (l : List (κ × ν)) :
    lookup x (insertEntry k v l) = if x = k then some v else lookup x l := by
  induction l with
  | nil => simp [insertEntry, lookup]
  | cons a rest ih =>
    obtain ⟨k', v'⟩ := a
    rw [insertEntry]
    split
    · simp [lookup]
    · next heq =>
      have : k = k' := Std.LawfulEqCmp.eq_of_compare heq
      subst this
      by_cases hx : x = k <;> simp [lookup, hx]
    · next hgt =>
      have hne : k ≠ k' := by
        intro he
        rw [he, Std.compare_self] at hgt
        cases hgt
      by_cases hx : x = k'
      · subst hx
        simp [lookup, Ne.symm hne]
      · simp [lookup, hx, ih]

/-- **Lookup after insertion.** -/
@[simp] theorem get?_insert [Std.TransOrd κ] [Std.LawfulEqOrd κ] (m : SortedMap κ ν) (k : κ) (v : ν) (x : κ) :
    (m.insert k v).get? x = if x = k then some v else m.get? x :=
  lookup_insertEntry k v x m.entries

omit [Ord κ] in
theorem lookup_filter_ne (k x : κ) (l : List (κ × ν)) :
    lookup x (l.filter fun e => decide (k ≠ e.1)) = if x = k then none else lookup x l := by
  induction l with
  | nil => simp [lookup]
  | cons a rest ih => grind [lookup]

/-- **Lookup after removal.** -/
@[simp] theorem get?_erase (m : SortedMap κ ν) (k x : κ) :
    (m.erase k).get? x = if x = k then none else m.get? x :=
  lookup_filter_ne k x m.entries

/-- A listed entry is found. -/
theorem get?_eq_some_of_mem [Std.LawfulEqOrd κ] {m : SortedMap κ ν} {e : κ × ν} (h : e ∈ m.entries) :
    m.get? e.1 = some e.2 := by
  obtain ⟨l, hl⟩ := m
  simp only [get?] at *
  induction l with
  | nil => cases h
  | cons a rest ih =>
    have hr := List.pairwise_cons.1 hl
    rcases List.mem_cons.1 h with rfl | h
    · simp [lookup]
    · have hne : e.1 ≠ a.1 := by
        intro he
        have := hr.1 e h
        rw [he, Std.compare_self] at this
        cases this
      rw [lookup, if_neg hne]
      exact ih hr.2 h

/-- A found value is listed. -/
theorem mem_of_get?_eq_some {m : SortedMap κ ν} {k : κ} {v : ν} (h : m.get? k = some v) : (k, v) ∈ m.entries := by
  obtain ⟨l, hl⟩ := m
  simp only [get?] at *
  clear hl
  induction l with
  | nil => cases h
  | cons a rest ih =>
    rw [lookup] at h
    split at h
    · next he => cases h; subst he; exact List.mem_cons_self
    · exact List.mem_cons_of_mem _ (ih h)

/-- **The entries are the found pairs.** -/
theorem mem_entries_iff [Std.LawfulEqOrd κ] {m : SortedMap κ ν} {k : κ} {v : ν} :
    (k, v) ∈ m.entries ↔ m.get? k = some v :=
  ⟨fun h => get?_eq_some_of_mem h, mem_of_get?_eq_some⟩

/-- A key is listed when it has a value. -/
theorem mem_keys_iff [Std.LawfulEqOrd κ] {m : SortedMap κ ν} {k : κ} : k ∈ m.keys ↔ m.contains k = true := by
  constructor
  · intro h
    obtain ⟨e, he, rfl⟩ := List.mem_map.1 h
    simp [contains, get?_eq_some_of_mem he]
  · intro h
    obtain ⟨v, hv⟩ := Option.isSome_iff_exists.1 h
    exact List.mem_map.2 ⟨(k, v), mem_of_get?_eq_some hv, rfl⟩

omit [DecidableEq κ] in
/-- Ascending lists with the same members are equal. -/
theorem eq_of_pairwise_lt [Std.TransOrd κ] [Std.LawfulEqOrd κ] {l₁ l₂ : List (κ × ν)}
    (h₁ : l₁.Pairwise fun a b => compare a.1 b.1 = .lt) (h₂ : l₂.Pairwise fun a b => compare a.1 b.1 = .lt)
    (h : ∀ e, e ∈ l₁ ↔ e ∈ l₂) : l₁ = l₂ := by
  have irrefl : ∀ {a : κ × ν}, compare a.1 a.1 ≠ .lt := by
    intro a ha
    rw [Std.compare_self] at ha
    cases ha
  induction l₁ generalizing l₂ with
  | nil =>
    cases l₂ with
    | nil => rfl
    | cons b _ => exact absurd ((h b).2 List.mem_cons_self) (by simp)
  | cons a r₁ ih =>
    cases l₂ with
    | nil => exact absurd ((h a).1 List.mem_cons_self) (by simp)
    | cons b r₂ =>
      have p₁ := List.pairwise_cons.1 h₁
      have p₂ := List.pairwise_cons.1 h₂
      have hab : a = b := by
        rcases List.mem_cons.1 ((h a).1 List.mem_cons_self) with e | ha
        · exact e
        · rcases List.mem_cons.1 ((h b).2 List.mem_cons_self) with e | hb
          · exact e.symm
          · exact absurd (Std.TransCmp.lt_trans (p₁.1 b hb) (p₂.1 a ha)) irrefl
      subst hab
      congr 1
      refine ih p₁.2 p₂.2 fun e => ⟨fun he => ?_, fun he => ?_⟩
      · rcases List.mem_cons.1 ((h e).1 (List.mem_cons_of_mem _ he)) with rfl | h'
        · exact absurd (p₁.1 _ he) irrefl
        · exact h'
      · rcases List.mem_cons.1 ((h e).2 (List.mem_cons_of_mem _ he)) with rfl | h'
        · exact absurd (p₂.1 _ he) irrefl
        · exact h'

omit [DecidableEq κ] in
/-- No key is listed twice. -/
theorem nodup_keys [Std.LawfulEqOrd κ] (m : SortedMap κ ν) : m.keys.Nodup := by
  refine List.pairwise_map.2 (m.ascending.imp fun {a b} hlt heq => ?_)
  rw [heq, Std.compare_self] at hlt
  cases hlt

omit [Ord κ] in
/-- Without repeated keys the order of a list does not matter to lookups. -/
theorem lookup_perm {l₁ l₂ : List (κ × ν)} (h : l₁.Perm l₂) (hn : (l₁.map (·.1)).Nodup) (k : κ) :
    lookup k l₁ = lookup k l₂ := by
  induction h with
  | nil => rfl
  | cons a _ ih =>
    rw [lookup, lookup, ih (List.nodup_cons.1 hn).2]
  | swap a b l =>
    have hab : b.1 ≠ a.1 := fun e => (List.nodup_cons.1 hn).1 (by simp [e])
    simp only [lookup]
    split <;> split <;> simp_all
  | trans h₁ _ ih₁ ih₂ => rw [ih₁ hn, ih₂ ((h₁.map _).nodup_iff.1 hn)]

/-- **Maps with the same lookups are equal.** -/
theorem ext_get? [Std.TransOrd κ] [Std.LawfulEqOrd κ] {m₁ m₂ : SortedMap κ ν}
    (h : ∀ k, m₁.get? k = m₂.get? k) : m₁ = m₂ := by
  have he : m₁.entries = m₂.entries :=
    eq_of_pairwise_lt m₁.ascending m₂.ascending fun ⟨k, v⟩ => by
      rw [mem_entries_iff, mem_entries_iff, h k]
  cases m₁
  cases m₂
  simpa using he

/-- **Lookup in a map made from a list:** the last entry with the key. -/
theorem get?_ofList [Std.TransOrd κ] [Std.LawfulEqOrd κ] (l : List (κ × ν)) (k : κ) :
    (ofList l).get? k = lookup k l.reverse := by
  suffices h : ∀ (l : List (κ × ν)) (m : SortedMap κ ν),
      (l.foldl (fun m e => m.insert e.1 e.2) m).get? k = (lookup k l.reverse).or (m.get? k) by
    simpa [ofList] using h l ∅
  intro l
  induction l with
  | nil => simp [lookup]
  | cons a rest ih =>
    intro m
    rw [List.foldl_cons, ih, List.reverse_cons, lookup_append, get?_insert]
    by_cases ha : k = a.1 <;> cases lookup k rest.reverse <;> simp [lookup, ha]

/-- A key is that of an entry of the list. -/
theorem contains_ofList [Std.TransOrd κ] [Std.LawfulEqOrd κ] {l : List (κ × ν)} {k : κ} :
    (ofList l).contains k = true ↔ k ∈ l.map (·.1) := by
  rw [contains, get?_ofList, isSome_lookup_iff, List.map_reverse, List.mem_reverse]

/-- **The last entry with a key counts.** -/
theorem get?_ofList_eq_some_iff [Std.TransOrd κ] [Std.LawfulEqOrd κ] {l : List (κ × ν)} {k : κ} {v : ν} :
    (ofList l).get? k = some v ↔ ∃ before after, l = before ++ (k, v) :: after ∧ ∀ e ∈ after, e.1 ≠ k := by
  rw [get?_ofList, lookup_eq_some_iff]
  constructor
  · rintro ⟨after, before, hl, hafter⟩
    refine ⟨before.reverse, after.reverse, ?_, fun e he => hafter e (List.mem_reverse.1 he)⟩
    rw [← List.reverse_reverse l, hl]
    simp
  · rintro ⟨before, after, rfl, hafter⟩
    exact ⟨after.reverse, before.reverse, by simp, fun e he => hafter e (List.mem_reverse.1 he)⟩

end Laws

end SortedMap

end CiMessage
