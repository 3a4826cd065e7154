import CiMessage.Proofs.Reading
import CiMessage.Proofs.Spelling

/-!
# Strings are read as they are spelled

A string is read as the text that its signs stand for, and what is wrong with them is reported (`view_quotedString`). It
can be skipped whatever its signs stand for (`skipString_signs`).
-/

namespace CiMessage.Json

variable {a b c d : Char} {n : Nat}

/-! ## Escapes -/

theorem view_hexQuad (h : hexQuad? a b c d = some n) (rest : List Char) :
    view (hexQuad (a :: b :: c :: d :: rest)) = .ok (n, rest) := by
  simp only [hexQuad, h, view_ok]

theorem view_numberedEscape (cs : List Char) :
    view (numberedEscape cs) = view (hexQuad cs) >>= fun r =>
      if isLowSurrogate r.1 then .error .loneSurrogate
      else if isHighSurrogate r.1 then view (lowSurrogate r.1 r.2)
      else .ok (Char.ofNat r.1, r.2) := by
  rw [numberedEscape]
  cases hexQuad cs with
  | error e => rfl
  | ok r =>
    simp only [view_ok, ok_bind]
    split
    · rfl
    split
    · cases lowSurrogate r.value r.rest <;> rfl
    · rfl

theorem view_lowSurrogate_number (n : Nat) (cs : List Char) :
    view (lowSurrogate n ('\\' :: 'u' :: cs)) = view (hexQuad cs) >>= fun r =>
      if isLowSurrogate r.1 then .ok (joinSurrogates n r.1, r.2) else .error .loneSurrogate := by
  simp only [lowSurrogate]
  cases hexQuad cs with
  | error e => rfl
  | ok r =>
    simp only [view_ok, ok_bind]
    split
    · rw [view_ok, Read.widen, Read.map]
    · rfl

theorem view_lowSurrogate_of_ne (h : c ≠ '\\') (n : Nat) (rest : List Char) :
    view (lowSurrogate n (c :: rest)) = .error .unpairedSurrogate := by
  simp only [lowSurrogate, view_error]

theorem view_lowSurrogate_of_ne_u (h : c ≠ 'u') (n : Nat) (rest : List Char) :
    view (lowSurrogate n ('\\' :: c :: rest)) = .error .unpairedSurrogate := by
  simp only [lowSurrogate, view_error]

theorem ne_u_of_escapeLetter? (h : escapeLetter? c = some d) : c ≠ 'u' := by
  rintro rfl
  cases h

theorem view_escape_letter (h : escapeLetter? c = some d) (rest : List Char) :
    view (escape (c :: rest)) = .ok (d, rest) := by
  have hu := ne_u_of_escapeLetter? h
  simp only [escape, h]
  rfl

theorem view_escape_number (cs : List Char) : view (escape ('u' :: cs)) = view (numberedEscape cs) := by
  rw [escape, Reader.view_past]

/-- What is not written as a number is no partner of a high surrogate. -/
theorem view_lowSurrogate_of_not_number (s : List Glyph) (hs : ∀ a b c d m h t, s ≠ .number a b c d m h :: t)
    (n : Nat) (rest : List Char) :
    view (lowSurrogate n (s.flatMap Glyph.chars ++ '"' :: rest)) = .error .unpairedSurrogate := by
  cases s with
  | nil => rfl
  | cons g s =>
    cases g with
    | plain c h =>
      have hslash : c ≠ '\\' := by
        rintro rfl
        cases h
      exact view_lowSurrogate_of_ne hslash n _
    | letter c d h => exact view_lowSurrogate_of_ne_u (ne_u_of_escapeLetter? h) n _
    | number a b c d m h => exact absurd rfl (hs a b c d m h s)

/-! ## Reading -/

theorem stringBody_plain (h : isPlain c = true) (read cs : List Char) :
    stringBody read (c :: cs) = stringBody (c :: read) cs := by
  simp only [isPlain, Bool.and_eq_true, bne_iff_ne, decide_eq_true_eq] at h
  obtain ⟨⟨hquote, hslash⟩, hspace⟩ := h
  have hlt : ¬ c < ' ' := Char.not_lt.2 hspace
  rw [stringBody.eq_def]
  simp only [hlt, if_false]

theorem stringBody_escape (read cs : List Char) :
    stringBody read ('\\' :: cs) = view (escape cs) >>= fun r => stringBody (r.1 :: read) r.2 := by
  rw [stringBody.eq_def]
  simp only
  cases escape cs <;> rfl

theorem stringBody_letter (h : escapeLetter? c = some d) (read cs : List Char) :
    stringBody read ('\\' :: c :: cs) = stringBody (d :: read) cs := by
  rw [stringBody_escape, view_escape_letter h, ok_bind]

theorem stringBody_number (h : hexQuad? a b c d = some n) (read cs : List Char) :
    stringBody read ('\\' :: 'u' :: a :: b :: c :: d :: cs) =
      if isLowSurrogate n then .error .loneSurrogate
      else if isHighSurrogate n then view (lowSurrogate n cs) >>= fun r => stringBody (r.1 :: read) r.2
      else stringBody (Char.ofNat n :: read) cs := by
  rw [stringBody_escape, view_escape_number, view_numberedEscape, view_hexQuad h, ok_bind]
  split
  · rfl
  split
  · rfl
  · rfl

/-- What follows a character that is read comes after it. -/
theorem map_append_cons (read rest : List Char) (c : Char) (x : Except Error (List Char)) :
    (fun t => ((c :: read).reverse ++ t, rest)) <$> x =
      (fun t => (read.reverse ++ t, rest)) <$> ((c :: ·) <$> x) := by
  cases x with
  | error e => rfl
  | ok t => simp

/-- **The characters of a string are those that its signs stand for.** -/
theorem stringBody_signs (s : List Glyph) (read rest : List Char) :
    stringBody read (s.flatMap Glyph.chars ++ '"' :: rest) =
      (fun t => (read.reverse ++ t, rest)) <$> Glyph.decode s := by
  -- A high surrogate takes the next sign with it, so the induction is that of `Glyph.decode`.
  fun_induction Glyph.decode s generalizing read with
  | case1 => simp [stringBody]
  | case2 c h s ih => rw [← map_append_cons, ← ih, Glyph.plain_append, stringBody_plain h]
  | case3 c d h s ih => rw [← map_append_cons, ← ih, Glyph.letter_append, stringBody_letter h]
  | case4 a b c d n h s hlow =>
    rw [Glyph.number_append, stringBody_number h, if_pos hlow]
    rfl
  | case5 a b c d n h hlow hhigh a' b' c' d' m h' s hlow' ih =>
    rw [← map_append_cons, ← ih, Glyph.number_append, stringBody_number h, if_neg hlow, if_pos hhigh, Glyph.number_append,
      view_lowSurrogate_number, view_hexQuad h', ok_bind, if_pos hlow', ok_bind]
  | case6 a b c d n h hlow hhigh a' b' c' d' m h' s hlow' =>
    rw [Glyph.number_append, stringBody_number h, if_neg hlow, if_pos hhigh, Glyph.number_append,
      view_lowSurrogate_number, view_hexQuad h', ok_bind, if_neg hlow', error_bind]
    rfl
  | case7 a b c d n h s hlow hhigh hs =>
    rw [Glyph.number_append, stringBody_number h, if_neg hlow, if_pos hhigh, view_lowSurrogate_of_not_number s hs]
    rfl
  | case8 a b c d n h s hlow hhigh ih =>
    rw [← map_append_cons, ← ih, Glyph.number_append, stringBody_number h, if_neg hlow, if_neg hhigh]

theorem view_quotedString_eq (cs : List Char) :
    view (quotedString cs) = (fun r => (String.ofList r.1, r.2)) <$> stringBody [] cs := by
  rw [quotedString]
  split
  · next h => exact congrArg ((fun r => (String.ofList r.1, r.2)) <$> ·) h.symm
  · next h => exact congrArg ((fun r => (String.ofList r.1, r.2)) <$> ·) h.symm

/-- **A string is read as the text that its signs stand for.** -/
theorem view_quotedString (s : List Glyph) (rest : List Char) :
    view (quotedString (s.flatMap Glyph.chars ++ '"' :: rest)) = (fun t => (t, rest)) <$> Glyph.text s := by
  rw [view_quotedString_eq, stringBody_signs, Glyph.text]
  cases Glyph.decode s <;> rfl

/-! ## Skipping -/

/-- **A string is skipped whatever its signs stand for.** -/
theorem skipString_signs (s : List Glyph) (rest : List Char) :
    skipString (s.flatMap Glyph.chars ++ '"' :: rest) = .ok rest := by
  induction s with
  | nil => rw [skipString.eq_def]; rfl
  | cons g s ih =>
    cases g with
    | plain c h =>
      simp only [isPlain, Bool.and_eq_true, bne_iff_ne, decide_eq_true_eq] at h
      obtain ⟨⟨hquote, hslash⟩, hspace⟩ := h
      have hlt : ¬ c < ' ' := Char.not_lt.2 hspace
      rw [← ih, Glyph.plain_append, skipString.eq_def]
      simp only [hlt, if_false]
    | letter c d h =>
      have hu := ne_u_of_escapeLetter? h
      rw [← ih, Glyph.letter_append, skipString.eq_def]
      simp only [h]
    | number a b c d n h =>
      rw [← ih, Glyph.number_append, skipString.eq_def]
      simp only [hexQuad, h]

end CiMessage.Json
