import CiMessage.Proofs.Spelling.Readers

/-!
# What is written is a spelling

The compact text of a value spells that value (`Value.Spelled`): every string does, whatever its characters
(`spelled_string`), and so do the arrays and objects of values whose texts do.
-/

namespace CiMessage.Json

/-! ## Strings -/

theorem hexQuad?_digitChar :
    ∀ n < 0x20, hexQuad? '0' '0' (Nat.digitChar (n / 16)) (Nat.digitChar (n % 16)) = some n := by
  decide

/-- The way a character is shown in a string is a sign for it. -/
theorem exists_glyph (c : Char) :
    ∃ g : Glyph, g.chars = escapeChar c ∧ ∀ rest, Glyph.decode (g :: rest) = (c :: ·) <$> Glyph.decode rest := by
  rw [escapeChar.eq_def]
  split
  case h_8 hquote hslash _ _ _ _ _ =>
    split
    · next hc =>
      have hlow : isLowSurrogate c.toNat = false := by simp [isLowSurrogate]; omega
      have hhigh : isHighSurrogate c.toNat = false := by simp [isHighSurrogate]; omega
      refine ⟨.number _ _ _ _ c.toNat (hexQuad?_digitChar _ hc), rfl, fun rest => ?_⟩
      rw [Glyph.decode.eq_def]
      simp [hlow, hhigh]
    · next hc =>
      have hspace : ' ' ≤ c := UInt32.le_iff_toNat_le.2 (Nat.le_of_not_lt hc)
      refine ⟨.plain c ?_, rfl, fun _ => rfl⟩
      simp only [isPlain, Bool.and_eq_true, bne_iff_ne, decide_eq_true_eq]
      exact ⟨⟨hquote, hslash⟩, hspace⟩
  all_goals exact ⟨.letter _ _ rfl, rfl, fun _ => rfl⟩

/-- A written string consists of signs for its characters. -/
theorem exists_glyphs (t : List Char) :
    ∃ s : List Glyph, s.flatMap Glyph.chars = t.flatMap escapeChar ∧ Glyph.decode s = .ok t := by
  induction t with
  | nil => exact ⟨[], rfl, rfl⟩
  | cons c t ih =>
    obtain ⟨g, hchars, hdecode⟩ := exists_glyph c
    obtain ⟨s, hs, ht⟩ := ih
    refine ⟨g :: s, by rw [List.flatMap_cons, List.flatMap_cons, hchars, hs], ?_⟩
    rw [hdecode, ht]
    rfl

theorem exists_quoted (t : String) : ∃ s : List Glyph, quoted s = stringChars t ∧ Glyph.text s = .ok t := by
  obtain ⟨s, hs, ht⟩ := exists_glyphs t.toList
  refine ⟨s, by rw [quoted, hs, stringChars]; rfl, ?_⟩
  rw [Glyph.text, ht, Except.map_ok, String.ofList_toList]

/-! ## Values -/

/-- The compact text of the value spells it, nested so deep at most. -/
def Value.Spelled (v : Value) (depth : Nat) : Prop :=
  ∃ s : Spelling, s.chars = v.chars ∧ s.value = .ok v ∧ s.depth ≤ depth

theorem spelled_null (depth : Nat) : Value.null.Spelled depth := ⟨.null, rfl, rfl, Nat.zero_le _⟩

theorem spelled_boolean (b : Bool) (depth : Nat) : (Value.boolean b).Spelled depth :=
  ⟨.boolean b, by cases b <;> rfl, rfl, Nat.zero_le _⟩

theorem spelled_string (t : String) (depth : Nat) : (Value.string t).Spelled depth := by
  obtain ⟨s, hs, ht⟩ := exists_quoted t
  exact ⟨.string s, hs, by rw [Spelling.value, ht]; rfl, Nat.zero_le _⟩

theorem exists_items {vs : List Value} {depth : Nat} (hvs : vs ≠ []) (h : ∀ v ∈ vs, v.Spelled depth) :
    ∃ items : Items, items.chars = itemsChars vs ∧ items.values = .ok vs ∧ items.depth ≤ depth := by
  induction vs with
  | nil => exact absurd rfl hvs
  | cons v rest ih =>
    obtain ⟨s, hs, hv, hd⟩ := h v List.mem_cons_self
    cases rest with
    | nil =>
      refine ⟨.one .none s .none, ?_, ?_, hd⟩
      · simp [Items.chars, itemsChars, Blanks.none, hs]
      · rw [Items.values, hv]
        rfl
    | cons w rest =>
      obtain ⟨items, hchars, hvalues, hdepth⟩ := ih (List.cons_ne_nil _ _) fun v hv => h v (List.mem_cons_of_mem _ hv)
      refine ⟨.cons .none s .none items, ?_, ?_, Nat.max_le.2 ⟨hd, hdepth⟩⟩
      · simp [Items.chars, itemsChars, Blanks.none, hs, hchars]
      · rw [Items.values, hv, hvalues]
        rfl

theorem spelled_array {vs : List Value} {depth : Nat} (h : ∀ v ∈ vs, v.Spelled depth) :
    (Value.array vs).Spelled (depth + 1) := by
  by_cases hvs : vs = []
  · exact ⟨.emptyArray .none, by rw [hvs]; rfl, by rw [hvs]; rfl, Nat.succ_le_succ (Nat.zero_le _)⟩
  · obtain ⟨items, hchars, hvalues, hdepth⟩ := exists_items hvs h
    refine ⟨.array items, ?_, ?_, Nat.succ_le_succ hdepth⟩
    · rw [Spelling.chars, Value.chars, hchars]
      rfl
    · rw [Spelling.value, hvalues]
      rfl

theorem exists_members {ms : List (String × Value)} {depth : Nat} (hms : ms ≠ []) (h : ∀ m ∈ ms, m.2.Spelled depth) :
    ∃ members : Members,
      members.chars = membersChars ms ∧ members.entries = .ok ms ∧ members.depth ≤ depth := by
  induction ms with
  | nil => exact absurd rfl hms
  | cons m rest ih =>
    obtain ⟨s, hs, hv, hd⟩ := h m List.mem_cons_self
    obtain ⟨name, hname, htext⟩ := exists_quoted m.1
    let key : Key := ⟨.none, name, .none⟩
    have hkey : key.chars = stringChars m.1 ++ [':'] := by simp [key, Key.chars, Blanks.none, ← hname, quoted]
    cases rest with
    | nil =>
      refine ⟨.one key .none s .none, ?_, ?_, hd⟩
      · simp [Members.chars, membersChars, Blanks.none, hkey, hs]
      · rw [Members.entries, htext, hv]
        rfl
    | cons w rest =>
      obtain ⟨members, hchars, hentries, hdepth⟩ := ih (List.cons_ne_nil _ _) fun v hv => h v (List.mem_cons_of_mem _ hv)
      refine ⟨.cons key .none s .none members, ?_, ?_, Nat.max_le.2 ⟨hd, hdepth⟩⟩
      · simp [Members.chars, membersChars, Blanks.none, hkey, hs, hchars]
      · rw [Members.entries, htext, hv, hentries]
        rfl

theorem spelled_object {ms : List (String × Value)} {depth : Nat} (h : ∀ m ∈ ms, m.2.Spelled depth) :
    (Value.object ms).Spelled (depth + 1) := by
  by_cases hms : ms = []
  · exact ⟨.emptyObject .none, by rw [hms]; rfl, by rw [hms]; rfl, Nat.succ_le_succ (Nat.zero_le _)⟩
  · obtain ⟨members, hchars, hentries, hdepth⟩ := exists_members hms h
    refine ⟨.object members, ?_, ?_, Nat.succ_le_succ hdepth⟩
    · rw [Spelling.chars, Value.chars, hchars]
      rfl
    · rw [Spelling.value, hentries]
      rfl

/-- **The compact text of a value is a text of it.** -/
theorem Value.Spelled.exists_document {v : Value} {depth : Nat} (h : v.Spelled depth) :
    ∃ doc : Document, doc.text = v.text ∧ doc.value.value = .ok v ∧ doc.value.depth ≤ depth := by
  obtain ⟨s, hs, hv, hd⟩ := h
  refine ⟨⟨.none, s, .none⟩, ?_, hv, hd⟩
  rw [Document.text, Value.text, ← hs]
  simp [Blanks.none]

end CiMessage.Json
