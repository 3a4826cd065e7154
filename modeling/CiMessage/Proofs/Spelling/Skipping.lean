import CiMessage.Proofs.Spelling.Readers
import CiMessage.Proofs.Spelling.Strings

/-!
# Every spelling can be skipped

Skipping goes past a spelling of a value whatever it means (`reads_skip`): nested as deep as it may be, its numerals of any
size, its surrogates alone. The proof follows the grammar: an entry of an open array or object is skipped up to the comma
or the closing bracket after it.
-/

namespace CiMessage.Json

variable {stack : List Bracket} {bracket : Bracket} {rest cs : List Char} {c : Char}

/-! ## Scalars -/

/-- A word is read off letter by letter. -/
theorem word_append (letters rest : List Char) :
    word letters (letters ++ rest) = .ok ⟨rest, by rw [List.length_append]; omega⟩ := by
  induction letters with
  | nil => rfl
  | cons w ws ih => simp only [List.cons_append, word, if_true, ih]

theorem skipScalar_digit (h : isDigit c = true) (cs : List Char) : skipScalar (c :: cs) = skipNumeral (c :: cs) := by
  rw [skipScalar.eq_def]
  split
  case h_7 heq => cases heq; rw [if_pos h]
  all_goals next heq => cases heq <;> cases h

theorem skipScalar_numeral (n : Numeral) (h : EndsNumeral rest) : skipScalar (n.chars ++ rest) = .ok rest := by
  have hskip := n.skipNumeral_unsigned h
  rw [Numeral.chars]
  split
  · exact hskip
  · rw [← hskip]
    exact skipScalar_digit n.whole.isDigit_first _

/-- Is the value neither an array nor an object? -/
def Spelling.isScalar : Spelling → Bool
  | .null | .boolean _ | .number _ | .string _ => true
  | _ => false

/-- **A scalar is skipped whatever it means.** -/
theorem skipScalar_chars {v : Spelling} (hv : v.isScalar = true) (h : EndsNumeral rest) :
    skipScalar (v.chars ++ rest) = .ok rest := by
  cases v with
  | null => exact congrArg (Except.map (·.1)) (word_append ['u', 'l', 'l'] rest)
  | boolean b =>
    cases b with
    | true => exact congrArg (Except.map (·.1)) (word_append ['r', 'u', 'e'] rest)
    | false => exact congrArg (Except.map (·.1)) (word_append ['a', 'l', 's', 'e'] rest)
  | number n => exact skipScalar_numeral n h
  | string s =>
    rw [Spelling.chars, quoted, List.cons_append, List.append_assoc]
    exact skipString_signs s rest
  | _ => cases hv

/-! ## The skipping of arrays and objects, step by step -/

theorem skipValue_eq (stack : List Bracket) (cs : List Char) :
    skipValue stack cs =
      match skipBlanks cs with
      | [] => .error .endInValue
      | '[' :: rest => skipOpened .array stack rest
      | '\x7b' :: rest => skipOpened .object stack rest
      | c :: rest => skipScalar (c :: rest) >>= skipAfter stack := by
  rw [skipValue.eq_def]
  split
  · next hb => simp only [hb]
  · next hb => simp only [hb]
  · next hb => simp only [hb]
  · next c rest hbracket hbrace hb =>
    simp only [hb]
    split
    · next h => rw [h]; rfl
    · next h => rw [h]; rfl

theorem skipAfter_eq (bracket : Bracket) (stack : List Bracket) (cs : List Char) :
    skipAfter (bracket :: stack) cs =
      match skipBlanks cs with
      | [] => .error bracket.atEnd
      | ',' :: rest => skipToValue bracket rest >>= skipValue (bracket :: stack)
      | c :: rest => if c = bracket.close then skipAfter stack rest else .error bracket.noSeparator := by
  rw [skipAfter.eq_def]
  simp only
  split
  · next hb => rw [hb]
  · next hb =>
    rw [hb]
    simp only
    split
    · next h => rw [h]; rfl
    · next h => rw [h]; rfl
  · next hb => simp only [hb]

theorem skipOpened_eq (bracket : Bracket) (stack : List Bracket) (cs : List Char) :
    skipOpened bracket stack cs =
      match skipBlanks cs with
      | [] => .error bracket.atEnd
      | c :: rest =>
        if c = bracket.close then skipAfter stack rest
        else skipToValue bracket (c :: rest) >>= skipValue (bracket :: stack) := by
  rw [skipOpened.eq_def]
  split
  · next hb => rw [hb]
  · next hb =>
    rw [hb]
    simp only
    split
    · rfl
    · split
      · next h => rw [h]; rfl
      · next h => rw [h]; rfl

/-! ## Values -/

theorem skipValue_scalar (b : Blanks) {v : Spelling} (hv : v.isScalar = true) (h : EndsNumeral rest) :
    skipValue stack (b.chars ++ (v.chars ++ rest)) = skipAfter stack rest := by
  have hscalar := skipScalar_chars hv h
  obtain ⟨c, cs, hc, hblank, -⟩ := v.exists_chars_eq_cons
  rw [hc, List.cons_append] at hscalar ⊢
  rw [skipValue_eq, b.skip, skipBlanks_of_not_blank hblank]
  split
  · next heq => cases heq
  · next heq => cases heq; cases hscalar
  · next heq => cases heq; cases hscalar
  · next heq => rw [← heq, hscalar, ok_bind]

theorem skipToValue_key (k : Key) (rest : List Char) : skipToValue .object (k.chars ++ rest) = .ok rest := by
  rw [k.append, skipToValue, k.before.skip, skipBlanks_of_not_blank rfl]
  simp only [skipString_signs, k.after.skip, skipBlanks_of_not_blank (c := ':') rfl]

/-- An array or object without entries is closed at once. -/
theorem skipOpened_close (b : Blanks) (rest : List Char) :
    skipOpened bracket stack (b.chars ++ bracket.close :: rest) = skipAfter stack rest := by
  rw [skipOpened_eq, b.skip]
  cases bracket <;> rfl

/-- After the opening bracket comes the first entry. -/
theorem skipOpened_entry (hcs : skipBlanks cs = c :: rest) (hblank : isBlank c = false) (hclose : c ≠ bracket.close) :
    skipOpened bracket stack cs = skipToValue bracket cs >>= skipValue (bracket :: stack) := by
  simp only [skipOpened_eq, hcs, hclose, if_false]
  cases bracket with
  | array =>
    rw [skipToValue, skipToValue, ok_bind, ok_bind, skipValue_eq, skipValue_eq _ cs, hcs, skipBlanks_of_not_blank hblank]
  | object => rw [skipToValue, skipToValue, hcs, skipBlanks_of_not_blank hblank]

/-- After an entry comes a comma and the next one. -/
theorem skipAfter_comma (b : Blanks) (cs : List Char) :
    skipAfter (bracket :: stack) (b.chars ++ ',' :: cs) = skipToValue bracket cs >>= skipValue (bracket :: stack) := by
  rw [skipAfter_eq, b.skip]
  rfl

/-- After the last entry comes the closing bracket. -/
theorem skipAfter_close (b : Blanks) (rest : List Char) :
    skipAfter (bracket :: stack) (b.chars ++ bracket.close :: rest) = skipAfter stack rest := by
  rw [skipAfter_eq, b.skip]
  cases bracket <;> rfl

theorem skipOpened_items (items : Items) (cs : List Char) :
    skipOpened .array stack (items.chars ++ cs) = skipValue (.array :: stack) (items.chars ++ cs) := by
  obtain ⟨c, t, hc, hblank, hclose⟩ := items.exists_flush_eq_cons
  have hskip := items.skip cs
  rw [hc] at hskip
  exact skipOpened_entry hskip hblank hclose

theorem skipOpened_members (members : Members) (cs : List Char) :
    skipOpened .object stack (members.chars ++ cs) =
      skipToValue .object (members.chars ++ cs) >>= skipValue (.object :: stack) := by
  have hskip : skipBlanks (members.chars ++ cs) = '"' :: members.unquoted cs := by
    rw [members.append, members.before.skip, skipBlanks_of_not_blank rfl]
  exact skipOpened_entry hskip rfl (by decide)

mutual

/-- **Skipping goes past a value,** whatever it means. -/
theorem skipValue_chars (b : Blanks) (v : Spelling) (stack : List Bracket) {rest : List Char} (h : EndsNumeral rest) :
    skipValue stack (b.chars ++ (v.chars ++ rest)) = skipAfter stack rest :=
  match v with
  | .null => skipValue_scalar b rfl h
  | .boolean _ => skipValue_scalar b rfl h
  | .number _ => skipValue_scalar b rfl h
  | .string _ => skipValue_scalar b rfl h
  | .emptyArray inner => by
    rw [skipValue_eq, b.skip, Spelling.emptyArray_append]
    exact skipOpened_close inner rest
  | .array items => by
    rw [skipValue_eq, b.skip, Spelling.array_append]
    exact (skipOpened_items items _).trans (skipItems_chars items stack rest)
  | .emptyObject inner => by
    rw [skipValue_eq, b.skip, Spelling.emptyObject_append]
    exact skipOpened_close inner rest
  | .object members => by
    rw [skipValue_eq, b.skip, Spelling.object_append]
    exact (skipOpened_members members _).trans (skipMembers_chars members stack rest)

/-- The items of an array are skipped up to its closing bracket. -/
theorem skipItems_chars (items : Items) (stack : List Bracket) (rest : List Char) :
    skipValue (.array :: stack) (items.chars ++ ']' :: rest) = skipAfter stack rest :=
  match items with
  | .one b v a => by
    have hend := (EndsNumeral.cons (.inr (.inl rfl)) rest).after_blanks a
    rw [Items.one_append, skipValue_chars b v (.array :: stack) hend]
    exact skipAfter_close a rest
  | .cons b v a more => by
    have hend := (EndsNumeral.cons (.inl rfl) (more.chars ++ ']' :: rest)).after_blanks a
    rw [Items.cons_append, skipValue_chars b v (.array :: stack) hend, skipAfter_comma]
    exact skipItems_chars more stack rest

/-- The members of an object are skipped up to its closing brace. -/
theorem skipMembers_chars (members : Members) (stack : List Bracket) (rest : List Char) :
    skipToValue .object (members.chars ++ '\x7d' :: rest) >>= skipValue (.object :: stack) = skipAfter stack rest :=
  match members with
  | .one k b v a => by
    have hend := (EndsNumeral.cons (.inr (.inr rfl)) rest).after_blanks a
    rw [Members.one_append, skipToValue_key, ok_bind, skipValue_chars b v (.object :: stack) hend]
    exact skipAfter_close a rest
  | .cons k b v a more => by
    have hend := (EndsNumeral.cons (.inl rfl) (more.chars ++ '\x7d' :: rest)).after_blanks a
    rw [Members.cons_append, skipToValue_key, ok_bind, skipValue_chars b v (.object :: stack) hend, skipAfter_comma]
    exact skipMembers_chars more stack rest

end

/-- **Every spelling is skipped.** -/
theorem reads_skip (v : Spelling) : Reads Reader.skip v (.ok ()) := by
  intro b rest h
  have hskip := skipValue_chars b v [] h
  rw [skipAfter] at hskip
  rw [Reader.skip]
  split
  · next hr => rw [hskip] at hr; cases hr; rfl
  · next hr => rw [hskip] at hr; cases hr

end CiMessage.Json
