import CiMessage.Json.Reader.Variant
import CiMessage.Proofs.Spelling.Scalars

/-!
# Nulls and names are read as they are spelled

A null is read where one is wanted (`reads_unit`), and in the place of a value that may be missing (`Reads.optional`).
One of several names is read from a string, or from an object whose only key it is, with the value null
(`reads_variant`).
-/

namespace CiMessage.Json

variable {α : Type} {p : Reader α} {x : Except Error α} {rest : List Char}

/-! ## Nulls -/

/-- A value other than null does not begin like one. -/
theorem Spelling.exists_chars_ne_n {v : Spelling} (hv : v ≠ .null) :
    ∃ c cs, v.chars = c :: cs ∧ isBlank c = false ∧ c ≠ 'n' := by
  cases v with
  | null => exact absurd rfl hv
  | boolean b => cases b <;> exact ⟨_, _, rfl, rfl, by decide⟩
  | number n =>
    obtain ⟨c, cs, hc, hblank, hne⟩ := n.exists_chars_eq_cons
    exact ⟨c, cs, hc, hblank, hne 'n' rfl (by decide)⟩
  | _ => exact ⟨_, _, rfl, rfl, by decide⟩

/-- There is one way to write a null. -/
theorem Spelling.eq_null_of_value {v : Spelling} (h : v.value = .ok .null) : v = .null := by
  cases v with
  | null => rfl
  | number n => obtain ⟨_, ⟨⟩⟩ := Spelling.exists_number h
  | _ => simp [Spelling.value] at h

/-- The null that is meant, if it is one. -/
def Spelling.unit? : Spelling → Except Error Unit
  | .null => .ok ()
  | v => .error (v.wrongType "unit")

theorem Spelling.unit?_of_ne {v : Spelling} (hv : v ≠ .null) : v.unit? = .error (v.wrongType "unit") := by
  cases v <;> first | rfl | exact absurd rfl hv

/-- **A null is read,** and nothing else is. -/
theorem reads_unit (v : Spelling) : Reads Reader.unit v v.unit? := by
  intro b rest h
  have hwrong := congrArg (Except.error (α := Unit × List Char)) (wrongTypeAt_chars "unit" v h)
  rw [Reader.unit, Reader.view_afterBlanks, b.skip]
  by_cases hv : v = .null
  · subst hv
    exact view_keyword 'n' ['u', 'l', 'l'] () rest
  · obtain ⟨c, cs, hc, hblank, hne⟩ := Spelling.exists_chars_ne_n hv
    rw [Spelling.unit?_of_ne hv]
    rw [hc, List.cons_append] at hwrong ⊢
    rw [skipBlanks_of_not_blank hblank]
    generalize hcs : c :: (cs ++ rest) = ds at hwrong ⊢
    split
    · cases hcs
    · cases hcs; exact absurd rfl hne
    · exact hwrong

/-- What a value is read as where null stands for none. -/
def Spelling.orNull (x : Except Error α) : Spelling → Except Error (Option α)
  | .null => .ok none
  | _ => some <$> x

theorem Spelling.orNull_of_ne {v : Spelling} (hv : v ≠ .null) : v.orNull x = some <$> x := by
  cases v <;> first | rfl | exact absurd rfl hv

/-- **A null is read as none,** and other values as they are read anyway. -/
theorem Reads.optional {v : Spelling} (h : Reads p v x) : Reads (Reader.optional p) v (v.orNull x) := by
  intro b rest hrest
  rw [Reader.optional, Reader.view_afterBlanks, b.skip]
  by_cases hv : v = .null
  · subst hv
    exact view_keyword 'n' ['u', 'l', 'l'] none rest
  · obtain ⟨c, cs, hc, hblank, hne⟩ := Spelling.exists_chars_ne_n hv
    have hread := h.map some .none hrest
    rw [Spelling.orNull_of_ne hv, ← hread]
    change _ = view (p.map some (v.chars ++ rest))
    rw [hc, List.cons_append, skipBlanks_of_not_blank hblank]
    generalize hcs : c :: (cs ++ rest) = ds
    split
    · cases hcs; exact absurd rfl hne
    · rfl

/-! ## Names from a list -/

/-- The name that is meant, if the value is one. -/
def Spelling.variant? (ofTag : String → Except Error α) : Spelling → Except Error α
  | .string s => Glyph.text s >>= ofTag
  | .object (.one k _ v _) => do
    let a ← Glyph.text k.name >>= ofTag
    v.unit?
    return a
  | .object (.cons k _ v _ _) => do
    let _ ← Glyph.text k.name >>= ofTag
    v.unit?
    .error .expectedValue
  | _ => .error .expectedValue

theorem variant?_of_value {v : Spelling} {t : String} (ofTag : String → Except Error α)
    (h : v.value = .ok (.string t)) : v.variant? ofTag = ofTag t := by
  cases v with
  | string s =>
    obtain ⟨t', ht', hs⟩ := map_eq_ok.1 h
    cases hs
    rw [Spelling.variant?, ht', ok_bind]
  | number n => obtain ⟨_, ⟨⟩⟩ := Spelling.exists_number h
  | _ => simp [Spelling.value] at h

namespace Reader

variable (ofTag : String → Except Error α)

/-- Reads a name as a key with a null after it. -/
def nullMember : Reader α :=
  ((string "variant identifier").check ofTag).bind fun a => (afterColon unit).map fun _ => a

/-- Goes past the brace after a null. -/
def closeBrace (r : α × List Char) : Except Error (α × List Char) :=
  match skipBlanks r.2 with
  | [] => .error .endInObject
  | '\x7d' :: rest => .ok (r.1, rest)
  | _ :: _ => .error .expectedValue

theorem closeBrace_blanks (a : α) (b : Blanks) {c : Char} (hc : isBlank c = false) (rest : List Char) :
    closeBrace (a, b.chars ++ c :: rest) = if c = '\x7d' then .ok (a, rest) else .error .expectedValue := by
  rw [closeBrace, b.skip, skipBlanks_of_not_blank hc]
  by_cases hbrace : c = '\x7d' <;> simp [hbrace]

/-- A name as a key is read with the null after it, and then the object has to end. -/
theorem view_variant_key {cs t : List Char} (hcs : skipBlanks cs = '"' :: t) (b : Blanks) :
    view (variant ofTag (b.chars ++ '\x7b' :: cs)) = view (nullMember ofTag cs) >>= closeBrace := by
  rw [variant, view_afterBlanks, b.skip, skipBlanks_of_not_blank rfl, nullMember]
  simp only [hcs]
  cases Reader.bind _ _ cs with
  | error e => rfl
  | ok r =>
    simp only [view_ok, ok_bind, closeBrace]
    split
    · next hb => simp only [hb, view_error]
    · next hb => simp only [hb, view_ok]
    · next hb => simp only [hb, view_error]

theorem view_variant_other {c : Char} (hblank : isBlank c = false) (hquote : c ≠ '"') (hbrace : c ≠ '\x7b') (b : Blanks)
    (cs : List Char) : view (variant ofTag (b.chars ++ c :: cs)) = .error .expectedValue := by
  rw [variant, view_afterBlanks, b.skip, skipBlanks_of_not_blank hblank]
  generalize hds : c :: cs = ds
  split
  · cases hds
  · cases hds; exact absurd rfl hquote
  · cases hds; exact absurd rfl hbrace
  · rfl

theorem view_nullMember (k : Key) (b : Blanks) (v : Spelling) (h : EndsNumeral rest) :
    view (nullMember ofTag (k.chars ++ (b.chars ++ (v.chars ++ rest)))) =
      (fun a => (a, rest)) <$> (do let a ← Glyph.text k.name >>= ofTag; v.unit?; return a) := by
  let value := b.chars ++ (v.chars ++ rest)
  have hkey : k.chars ++ value = k.before.chars ++ ((Spelling.string k.name).chars ++ (k.after.chars ++ ':' :: value)) := by
    simp only [Key.chars, Spelling.chars, List.append_assoc, List.cons_append, List.nil_append]
  have hcolon : EndsNumeral (k.after.chars ++ ':' :: value) :=
    EndsNumeral.after_blanks k.after ⟨noDigit_cons rfl _, fun c hc => by cases hc; decide⟩
  have hname := ((reads_string "variant identifier" (.string k.name)).check ofTag) k.before hcolon
  have hnull := fun a : α => ((reads_unit v).afterColon.map fun _ => a) k.after b h
  rw [nullMember, view_bind, hkey, hname, Spelling.string?]
  cases Glyph.text k.name >>= ofTag with
  | error e => rfl
  | ok a =>
    rw [Except.map_ok, ok_bind, ok_bind, hnull]
    cases v.unit? <;> rfl

end Reader

open Reader in
/-- **A name is read** as it is spelled, on its own or as a key with a null. -/
theorem reads_variant (ofTag : String → Except Error α) (v : Spelling) :
    Reads (variant ofTag) v (v.variant? ofTag) := by
  intro b rest h
  cases v with
  | string s =>
    have hname := ((reads_string "variant identifier" (.string s)).check ofTag) .none h
    rw [variant, view_afterBlanks, b.skip]
    rw [Spelling.chars, quoted_append] at hname ⊢
    rw [skipBlanks_of_not_blank rfl]
    exact hname
  | emptyObject inner =>
    have hclose : skipBlanks (inner.chars ++ '\x7d' :: rest) = '\x7d' :: rest := by
      rw [inner.skip, skipBlanks_of_not_blank rfl]
    rw [variant, view_afterBlanks, b.skip, Spelling.emptyObject_append, skipBlanks_of_not_blank rfl]
    simp only [hclose]
    rfl
  | object members =>
    have hquote : skipBlanks (members.chars ++ '\x7d' :: rest) = '"' :: members.unquoted ('\x7d' :: rest) := by
      rw [members.append, members.before.skip, skipBlanks_of_not_blank rfl]
    rw [Spelling.object_append, view_variant_key ofTag hquote]
    cases members with
    | one k b v a =>
      have hend := (EndsNumeral.cons (.inr (.inr rfl)) rest).after_blanks a
      rw [Members.one_append, view_nullMember ofTag k b v hend, Spelling.variant?]
      cases Glyph.text k.name >>= ofTag with
      | error e => rfl
      | ok t =>
        cases v.unit? with
        | error e => rfl
        | ok => exact closeBrace_blanks t a rfl rest
    | cons k b v a more =>
      have hend := (EndsNumeral.cons (.inl rfl) (more.chars ++ '\x7d' :: rest)).after_blanks a
      rw [Members.cons_append, view_nullMember ofTag k b v hend, Spelling.variant?]
      cases Glyph.text k.name >>= ofTag with
      | error e => rfl
      | ok t =>
        cases v.unit? with
        | error e => rfl
        | ok => exact closeBrace_blanks t a rfl (more.chars ++ '\x7d' :: rest)
  | null | emptyArray | array => exact view_variant_other ofTag rfl (by decide) (by decide) b _
  | boolean x => cases x <;> exact view_variant_other ofTag rfl (by decide) (by decide) b _
  | number n =>
    obtain ⟨c, cs, hc, hblank, hne⟩ := n.exists_chars_eq_cons
    rw [Spelling.chars, hc]
    exact view_variant_other ofTag hblank (hne '"' rfl (by decide)) (hne '\x7b' rfl (by decide)) b _

end CiMessage.Json
