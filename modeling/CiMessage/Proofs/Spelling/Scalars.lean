import CiMessage.Proofs.Spelling.Skipping

/-!
# Scalars are read as they are spelled

A null, a boolean, a number or a string is read as the value that is meant (`view_scalar`). A reader of a wanted type says
of any other value what it is, unless there is something wrong with that (`wrongTypeAt_chars`).
-/

namespace CiMessage.Json

variable {rest : List Char} {c : Char}

/-! ## Parts of scalars -/

theorem view_keyword {α : Type} (first : Char) (letters : List Char) (a : α) (rest : List Char) :
    view (keyword first letters a (letters ++ rest)) = .ok (a, rest) := by
  rw [keyword, word_append]
  rfl

theorem view_numeral (isNegative : Bool) (cs : List Char) : view (numeral isNegative cs) = numeralBody isNegative cs := by
  rw [numeral]
  split
  · next h => exact h.symm
  · next h => exact h.symm

/-! ## Values of any type -/

theorem view_scalar_digit (h : isDigit c = true) (cs : List Char) :
    view (Reader.scalar (c :: cs)) = (fun r => (.number r.1, r.2)) <$> numeralBody false (c :: cs) := by
  have hn := ne_of_isDigit (d := 'n') h rfl
  have ht := ne_of_isDigit (d := 't') h rfl
  have hf := ne_of_isDigit (d := 'f') h rfl
  have hminus := ne_of_isDigit (d := '-') h rfl
  have hquote := ne_of_isDigit (d := '"') h rfl
  rw [← view_numeral, ← Reader.view_map]
  simp only [Reader.scalar, h, if_true]

theorem view_scalar_numeral (n : Numeral) (h : EndsNumeral rest) :
    view (Reader.scalar (n.chars ++ rest)) = (fun r => (.number r.1, r.2)) <$> inRange n.number? rest := by
  rw [← n.numeralBody_unsigned h, Numeral.chars]
  cases hn : n.isNegative with
  | true =>
    simp [Reader.scalar, view_numeral]
  | false => exact view_scalar_digit n.whole.isDigit_first _

/-- **A scalar is read as the value that is meant,** or what is wrong with it is reported. -/
theorem view_scalar {v : Spelling} (hv : v.isScalar = true) (h : EndsNumeral rest) :
    view (Reader.scalar (v.chars ++ rest)) = (fun x => (x, rest)) <$> v.value := by
  cases v with
  | null => exact view_keyword 'n' ['u', 'l', 'l'] Value.null rest
  | boolean b =>
    cases b with
    | true => exact view_keyword 't' ['r', 'u', 'e'] (Value.boolean true) rest
    | false => exact view_keyword 'f' ['a', 'l', 's', 'e'] (Value.boolean false) rest
  | number n =>
    rw [Spelling.chars, view_scalar_numeral n h, Spelling.value]
    cases n.number? <;> rfl
  | string s =>
    rw [Spelling.chars, quoted_append, Reader.scalar, Reader.view_past, Reader.view_map, view_quotedString, Spelling.value]
    cases Glyph.text s <;> rfl
  | _ => cases hv

/-! ## Values of a wanted type -/

/-- What a value is found to be where another is wanted; of an array or object only the bracket counts. -/
def Spelling.found : Spelling → Except Error Found
  | .null => .ok .null
  | .boolean b => .ok (.boolean b)
  | .number n =>
    match n.number? with
    | some m => .ok (.number m)
    | none => .error .numberOutOfRange
  | .string s => .string <$> Glyph.text s
  | .emptyArray _ | .array _ => .ok .sequence
  | .emptyObject _ | .object _ => .ok .map

/-- What is wrong with a value that is not of the wanted type. -/
def Spelling.wrongType (expected : String) (v : Spelling) : Error :=
  match v.found with
  | .ok found => .wrongType found expected
  | .error e => e

theorem wrongTypeAt_digit (expected : String) (h : isDigit c = true) (cs : List Char) :
    wrongTypeAt expected (c :: cs) =
      match numeralBody false (c :: cs) with
      | .ok r => .wrongType (.number r.1) expected
      | .error e => e := by
  have hn := ne_of_isDigit (d := 'n') h rfl
  have ht := ne_of_isDigit (d := 't') h rfl
  have hf := ne_of_isDigit (d := 'f') h rfl
  have hminus := ne_of_isDigit (d := '-') h rfl
  have hquote := ne_of_isDigit (d := '"') h rfl
  have hbracket := ne_of_isDigit (d := '[') h rfl
  have hbrace := ne_of_isDigit (d := '\x7b') h rfl
  simp only [wrongTypeAt, h, if_true]
  cases numeralBody false (c :: cs) <;> rfl

theorem wrongTypeAt_numeral (expected : String) (n : Numeral) (h : EndsNumeral rest) :
    wrongTypeAt expected (n.chars ++ rest) =
      match inRange n.number? rest with
      | .ok r => .wrongType (.number r.1) expected
      | .error e => e := by
  rw [← n.numeralBody_unsigned h, Numeral.chars]
  cases hn : n.isNegative with
  | true =>
    simp only [if_true, List.cons_append, wrongTypeAt]
    cases numeralBody true (n.unsigned ++ rest) <;> rfl
  | false => exact wrongTypeAt_digit expected n.whole.isDigit_first _

/-- **A value that is not wanted is read to its end,** and what is wrong in it comes before its being of the wrong type. -/
theorem wrongTypeAt_chars (expected : String) (v : Spelling) (h : EndsNumeral rest) :
    wrongTypeAt expected (v.chars ++ rest) = v.wrongType expected := by
  cases v with
  | null => simp [Spelling.chars, wrongTypeAt, Spelling.wrongType, Spelling.found, word]
  | boolean b => cases b <;> simp [Spelling.chars, wrongTypeAt, Spelling.wrongType, Spelling.found, word]
  | number n =>
    rw [Spelling.chars, wrongTypeAt_numeral expected n h, Spelling.wrongType, Spelling.found]
    cases n.number? <;> rfl
  | string s =>
    rw [Spelling.chars, quoted_append, wrongTypeAt, stringBody_signs, Spelling.wrongType, Spelling.found, Glyph.text]
    cases Glyph.decode s <;> rfl
  | _ => rfl

/-- The boolean that is meant, if it is one. -/
def Spelling.boolean? : Spelling → Except Error Bool
  | .boolean b => .ok b
  | v => .error (v.wrongType "a boolean")

/-- The text that is meant, if it is a string. -/
def Spelling.string? (expected : String) : Spelling → Except Error String
  | .string s => Glyph.text s
  | v => .error (v.wrongType expected)

theorem boolean?_of_value {v : Spelling} {b : Bool} (h : v.value = .ok (.boolean b)) : v.boolean? = .ok b := by
  cases v with
  | boolean x => cases h; rfl
  | number n => obtain ⟨_, ⟨⟩⟩ := Spelling.exists_number h
  | _ => simp [Spelling.value] at h

theorem string?_of_value {v : Spelling} {t : String} (expected : String) (h : v.value = .ok (.string t)) :
    v.string? expected = .ok t := by
  cases v with
  | string s =>
    obtain ⟨t', ht', hs⟩ := map_eq_ok.1 h
    cases hs
    exact ht'
  | number n => obtain ⟨_, ⟨⟩⟩ := Spelling.exists_number h
  | _ => simp [Spelling.value] at h

/-- **A boolean is read** as it is spelled, and nothing else is. -/
theorem reads_boolean (v : Spelling) : Reads Reader.boolean v v.boolean? := by
  intro b rest h
  have hwrong := congrArg (Except.error (α := Bool × List Char)) (wrongTypeAt_chars "a boolean" v h)
  rw [Reader.boolean, Reader.view_afterBlanks, b.skip]
  cases v with
  | boolean x =>
    cases x with
    | true => exact view_keyword 't' ['r', 'u', 'e'] true rest
    | false => exact view_keyword 'f' ['a', 'l', 's', 'e'] false rest
  | number n =>
    obtain ⟨c, cs, hc, hblank, hne⟩ := n.exists_chars_eq_cons
    have ht := hne 't' rfl (by decide)
    have hf := hne 'f' rfl (by decide)
    rw [Spelling.chars, hc, List.cons_append] at hwrong ⊢
    rw [skipBlanks_of_not_blank hblank]
    generalize hcs : c :: (cs ++ rest) = ds at hwrong ⊢
    split
    · cases hcs
    · cases hcs; exact absurd rfl ht
    · cases hcs; exact absurd rfl hf
    · exact hwrong
  | _ => exact hwrong

/-- **A string is read** as the text that its signs stand for, and nothing else is. -/
theorem reads_string (expected : String) (v : Spelling) : Reads (Reader.string expected) v (v.string? expected) := by
  intro b rest h
  have hwrong := congrArg (Except.error (α := String × List Char)) (wrongTypeAt_chars expected v h)
  rw [Reader.string, Reader.view_afterBlanks, b.skip]
  cases v with
  | string s =>
    rw [Spelling.chars, quoted_append, skipBlanks_of_not_blank rfl]
    exact (Reader.view_past ..).trans (view_quotedString s rest)
  | boolean x => cases x <;> exact hwrong
  | number n =>
    obtain ⟨c, cs, hc, hblank, hne⟩ := n.exists_chars_eq_cons
    have hquote := hne '"' rfl (by decide)
    rw [Spelling.chars, hc, List.cons_append] at hwrong ⊢
    rw [skipBlanks_of_not_blank hblank]
    generalize hcs : c :: (cs ++ rest) = ds at hwrong ⊢
    split
    · cases hcs
    · cases hcs; exact absurd rfl hquote
    · exact hwrong
  | _ => exact hwrong

end CiMessage.Json
