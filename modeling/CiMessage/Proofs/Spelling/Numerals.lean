import CiMessage.Proofs.Spelling

/-!
# Numerals are read as they are spelled

A numeral ends before a character that cannot continue it. Up to there it is read as the number that is meant, unless
that is out of range (`numeralBody_unsigned`), and it can be skipped whatever its size (`skipNumeral_unsigned`).
-/

namespace CiMessage.Json

variable {rest : List Char}

/-! ## Runs of digits -/

/-- The text does not begin with a digit. -/
def NoDigit (rest : List Char) : Prop := ∀ c ∈ rest.head?, isDigit c = false

/-- The text does not begin with a character that continues a numeral. -/
def EndsNumeral (rest : List Char) : Prop := NoDigit rest ∧ ∀ c ∈ rest.head?, c ≠ '.' ∧ c ≠ 'e' ∧ c ≠ 'E'

theorem NoDigit.takeWhile (h : NoDigit rest) : rest.takeWhile isDigit = [] := by
  cases rest with
  | nil => rfl
  | cons c rest => exact List.takeWhile_cons_of_neg (by simp [h c rfl])

theorem NoDigit.dropWhile (h : NoDigit rest) : rest.dropWhile isDigit = rest := by
  cases rest with
  | nil => rfl
  | cons c rest => exact List.dropWhile_cons_of_neg (by simp [h c rfl])

theorem NoDigit.any_head? (h : NoDigit rest) : rest.head?.any isDigit = false := by
  cases rest with
  | nil => rfl
  | cons c rest => exact h c rfl

theorem noDigit_cons {c : Char} (h : isDigit c = false) (rest : List Char) : NoDigit (c :: rest) := by
  rintro _ ⟨⟩
  exact h

theorem EndsNumeral.nil : EndsNumeral [] := ⟨fun _ h => (nomatch h), fun _ h => (nomatch h)⟩

/-- White space ends a numeral, and so does what comes after a value. -/
theorem EndsNumeral.after_blanks (b : Blanks) (h : EndsNumeral rest) : EndsNumeral (b.chars ++ rest) := by
  obtain ⟨chars, blank⟩ := b
  cases chars with
  | nil => exact h
  | cons c cs =>
    obtain rfl | rfl | rfl | rfl := eq_of_isBlank (blank c List.mem_cons_self)
    all_goals exact ⟨by rintro _ ⟨⟩; rfl, by rintro _ ⟨⟩; decide⟩

theorem EndsNumeral.cons {c : Char} (h : c = ',' ∨ c = ']' ∨ c = '\x7d') (rest : List Char) :
    EndsNumeral (c :: rest) := by
  obtain rfl | rfl | rfl := h
  all_goals exact ⟨by rintro _ ⟨⟩; rfl, by rintro _ ⟨⟩; decide⟩

namespace Digits

variable (ds : Digits)

theorem takeWhile_chars (h : NoDigit rest) : (ds.chars ++ rest).takeWhile isDigit = ds.chars := by
  rw [chars, List.takeWhile_append_of_pos ds.digit, h.takeWhile, List.append_nil]

theorem dropWhile_chars (h : NoDigit rest) : (ds.chars ++ rest).dropWhile isDigit = rest := by
  rw [chars, List.dropWhile_append_of_pos ds.digit, h.dropWhile]

theorem dropWhile_more (h : NoDigit rest) : (ds.more ++ rest).dropWhile isDigit = rest := by
  rw [List.dropWhile_append_of_pos fun c hc => ds.digit c (List.mem_cons_of_mem _ hc), h.dropWhile]

end Digits

/-! ## Exponents -/

theorem exponentDigits_chars (ds : Digits) (h : NoDigit rest) :
    exponentDigits (ds.chars ++ rest) = .ok (digitsValue ds.chars, rest) := by
  have htake := ds.takeWhile_chars h
  have hdrop := ds.dropWhile_chars h
  rw [Digits.chars, List.cons_append] at *
  rw [exponentDigits, if_pos ds.isDigit_first, htake, hdrop]

theorem exponent_chars (e : Exponent) (h : NoDigit rest) :
    exponent (e.signChars ++ (e.digits.chars ++ rest)) = .ok (e.value, rest) := by
  have hds := exponentDigits_chars e.digits h
  rw [Exponent.signChars, Exponent.value]
  split
  · next hs =>
    have hplus := ne_of_isDigit (d := '+') e.digits.isDigit_first rfl
    have hminus := ne_of_isDigit (d := '-') e.digits.isDigit_first rfl
    rw [Digits.chars, List.cons_append] at *
    simp [exponent, hds, hs, hplus, hminus, Except.map]
  · next hs => simp [exponent, hds, hs, Except.map]
  · next hs => simp [exponent, hds, hs, Except.map]

theorem skipExponent_chars (e : Exponent) (h : NoDigit rest) :
    skipExponent (e.signChars ++ (e.digits.chars ++ rest)) = .ok rest := by
  have hplus := ne_of_isDigit (d := '+') e.digits.isDigit_first rfl
  have hminus := ne_of_isDigit (d := '-') e.digits.isDigit_first rfl
  rw [Exponent.signChars, Digits.chars, List.cons_append]
  split <;>
    simp [skipExponent, hplus, hminus, e.digits.isDigit_first, e.digits.dropWhile_more h]

namespace Numeral

variable (n : Numeral)

/-! ## Reading -/

/-- No digit follows the digits of a fraction. -/
theorem noDigit_exponentChars (h : EndsNumeral rest) : NoDigit (n.exponentChars ++ rest) := by
  rw [exponentChars]
  split
  · exact h.1
  · next e _ =>
    rw [Exponent.chars, List.cons_append]
    refine noDigit_cons ?_ _
    obtain h | h := e.letter_eq <;> rw [h] <;> rfl

theorem exponentChars_no_point (h : EndsNumeral rest) : (n.exponentChars ++ rest).head? ≠ some '.' := by
  rw [exponentChars]
  split
  · exact fun hr => (h.2 _ hr).1 rfl
  · next e _ => obtain h | h := e.letter_eq <;> simp [Exponent.chars, h]

/-- No digit follows the whole digits. -/
theorem noDigit_fractionChars (h : EndsNumeral rest) : NoDigit (n.fractionChars ++ (n.exponentChars ++ rest)) := by
  rw [fractionChars]
  split
  · exact n.noDigit_exponentChars h
  · exact noDigit_cons rfl _

/-- No digit follows a zero at the front. -/
theorem no_digit_after_zero (h : EndsNumeral rest) :
    ¬ (n.whole.first = '0' ∧ (n.whole.more ++ (n.fractionChars ++ (n.exponentChars ++ rest))).head?.any isDigit) := by
  rintro ⟨hzero, hany⟩
  rw [n.noExtraZero hzero, List.nil_append, (n.noDigit_fractionChars h).any_head?] at hany
  cases hany

theorem afterFraction_exponentChars (isNegative : Bool) (v : Nat) (k : Int) (h : EndsNumeral rest) :
    afterFraction isNegative v k (n.exponentChars ++ rest) =
      inRange (Number.ofDecimal isNegative v (k + (n.exponent.map Exponent.value).getD 0)) rest := by
  rw [exponentChars]
  split
  · next hn =>
    rw [hn]
    cases rest with
    | nil => simp [afterFraction]
    | cons c rest =>
      obtain ⟨-, he, hE⟩ := h.2 c rfl
      simp [afterFraction, he, hE]
  · next e hn =>
    rw [hn, Exponent.chars, List.cons_append, List.append_assoc, afterFraction, if_pos e.letter_eq, exponent_chars e h.1]
    rfl

theorem afterWhole_of_no_point {cs : List Char} (h : cs.head? ≠ some '.') (isNegative : Bool) (s : Significand) :
    afterWhole isNegative s cs =
      if s.surplus = 0 ∧ cs.head? ≠ some 'e' ∧ cs.head? ≠ some 'E' then inRange (Number.ofWhole isNegative s.value) cs
      else afterFraction isNegative s.value s.surplus cs := by
  rw [afterWhole.eq_def]
  split
  · exact absurd rfl h
  · rfl

theorem afterWhole_exponentChars (hf : n.fraction = none) (h : EndsNumeral rest) :
    afterWhole n.isNegative (.ofDigits n.whole.chars) (n.exponentChars ++ rest) = inRange n.number? rest := by
  have hafter (v : Nat) (k : Int) := n.afterFraction_exponentChars n.isNegative v k h
  have hpoint := n.exponentChars_no_point h
  cases he : n.exponent with
  | none =>
    have hnoLetter : rest.head? ≠ some 'e' ∧ rest.head? ≠ some 'E' :=
      ⟨fun hr => (h.2 _ hr).2.1 rfl, fun hr => (h.2 _ hr).2.2 rfl⟩
    rw [exponentChars, he, List.nil_append] at hafter hpoint ⊢
    simp only [afterWhole_of_no_point hpoint, hnoLetter, ne_eq, not_false_eq_true, and_true, hafter, number?, hf, he]
    split <;> simp
  | some e =>
    have hletter : (n.exponentChars ++ rest).head? = some e.letter := by
      rw [exponentChars, he]
      rfl
    rw [afterWhole_of_no_point hpoint, hafter, number?, hf, he, if_neg]
    · simp [takeFraction]
    · rw [hletter]
      obtain h | h := e.letter_eq <;> simp [h]

theorem afterWhole_chars (h : EndsNumeral rest) :
    afterWhole n.isNegative (.ofDigits n.whole.chars) (n.fractionChars ++ (n.exponentChars ++ rest)) =
      inRange n.number? rest := by
  cases hf : n.fraction with
  | some ds =>
    have hexp := n.noDigit_exponentChars h
    have htake := ds.takeWhile_chars hexp
    have hdrop := ds.dropWhile_chars hexp
    simp only [fractionChars, hf, List.cons_append, afterWhole, htake, hdrop]
    rw [Digits.chars]
    simp only [n.afterFraction_exponentChars _ _ _ h, number?, hf]
    rfl
  | none =>
    rw [fractionChars, hf, List.nil_append, n.afterWhole_exponentChars hf h]

/-- **A numeral is read as the number that is meant,** unless that is out of range. -/
theorem numeralBody_unsigned (h : EndsNumeral rest) :
    numeralBody n.isNegative (n.unsigned ++ rest) = inRange n.number? rest := by
  have hnext := n.noDigit_fractionChars h
  have htake := n.whole.takeWhile_chars hnext
  have hdrop := n.whole.dropWhile_chars hnext
  rw [unsigned, List.append_assoc, List.append_assoc, ← n.afterWhole_chars h]
  rw [Digits.chars, List.cons_append] at *
  rw [numeralBody, n.whole.isDigit_first, if_neg (n.no_digit_after_zero h), htake, hdrop]
  rfl

/-! ## Skipping -/

theorem skipOptionalExponent_chars (h : EndsNumeral rest) :
    skipOptionalExponent (n.exponentChars ++ rest) = .ok rest := by
  rw [exponentChars]
  split
  · cases rest with
    | nil => rfl
    | cons c rest =>
      obtain ⟨-, he, hE⟩ := h.2 c rfl
      simp [skipOptionalExponent, he, hE]
  · next e _ =>
    rw [Exponent.chars, List.cons_append, List.append_assoc, ← skipExponent_chars e h.1]
    obtain h | h := e.letter_eq <;> rw [h] <;> rfl

theorem skipFraction_of_no_point {cs : List Char} (h : cs.head? ≠ some '.') :
    skipFraction cs = skipOptionalExponent cs := by
  rw [skipFraction.eq_def]
  split
  · exact absurd rfl h
  · exact absurd rfl h
  · rfl

theorem skipFraction_chars (h : EndsNumeral rest) :
    skipFraction (n.fractionChars ++ (n.exponentChars ++ rest)) = .ok rest := by
  rw [fractionChars]
  split
  · rw [List.nil_append, ← n.skipOptionalExponent_chars h]
    exact skipFraction_of_no_point (n.exponentChars_no_point h)
  · next ds _ =>
    have hexp := n.noDigit_exponentChars h
    rw [Digits.chars, List.cons_append, List.cons_append, skipFraction, if_pos ds.isDigit_first, ds.dropWhile_more hexp,
      n.skipOptionalExponent_chars h]

/-- **A numeral is skipped whatever its size.** -/
theorem skipNumeral_unsigned (h : EndsNumeral rest) : skipNumeral (n.unsigned ++ rest) = .ok rest := by
  have hnext := n.noDigit_fractionChars h
  rw [unsigned, List.append_assoc, List.append_assoc, Digits.chars, List.cons_append, skipNumeral, n.whole.isDigit_first,
    n.whole.dropWhile_more hnext, n.skipFraction_chars h]
  split
  · cases ‹_›
  · split
    · next h0 =>
      rw [if_neg fun hany => n.no_digit_after_zero h ⟨h0, hany⟩, n.noExtraZero h0, List.nil_append, n.skipFraction_chars h]
    · rfl

end Numeral

end CiMessage.Json
