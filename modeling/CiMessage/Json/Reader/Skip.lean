import CiMessage.Json.Reader.Containers

/-!
# Values that are not wanted

`Reader.skip` goes past a value without keeping it. Nesting has no limit and numerals no range, and an escaped
surrogate may stand alone; the grammar is checked all the same. The arrays and objects that are open are kept as a
stack, the innermost one first.
-/

namespace CiMessage.Json

/-- Goes past a string, after its opening quote. -/
def skipString (cs : List Char) : Except Error (List Char) :=
  match cs with
  | [] => .error .endInString
  | '"' :: rest => .ok rest
  | '\\' :: rest =>
    match rest with
    | [] => .error .endInString
    | 'u' :: rest' =>
      match hexQuad rest' with
      | .ok r => skipString r.rest
      | .error e => .error e
    | c :: rest' =>
      match escapeLetter? c with
      | some _ => skipString rest'
      | none => .error .invalidEscape
  | c :: rest => if c < ' ' then .error .controlCharacter else skipString rest
  termination_by cs.length
  decreasing_by
    · have := r.shorter
      simp only [List.length_cons]
      omega
    · simp only [List.length_cons]
      omega
    · exact Nat.lt_succ_self _

/-- A skipped string leaves less than there was. -/
theorem skipString_shorter {cs rest : List Char} (h : skipString cs = .ok rest) : rest.length < cs.length := by
  fun_induction skipString cs with
  | case1 => cases h
  | case2 => cases h; exact Nat.lt_succ_self _
  | case3 => cases h
  | case4 rest' r _ ih =>
    have := ih h
    have := r.shorter
    simp only [List.length_cons]
    omega
  | case5 => cases h
  | case6 _ _ _ _ _ ih =>
    have := ih h
    simp only [List.length_cons]
    omega
  | case7 => cases h
  | case8 => cases h
  | case9 _ _ _ _ _ ih =>
    have := ih h
    simp only [List.length_cons]
    omega

/-- An open array or object. -/
inductive Bracket where
  | array
  | object
  deriving DecidableEq

namespace Bracket

/-- The closing character. -/
def close : Bracket → Char
  | array => ']'
  | object => '\x7d'

/-- What the end of the text means here. -/
def atEnd : Bracket → Error
  | array => .endInList
  | object => .endInObject

/-- What a missing separator means here. -/
def noSeparator : Bracket → Error
  | array => .expectedListSeparator
  | object => .expectedObjectSeparator

end Bracket

/-- Goes past a scalar; the text starts with it. -/
def skipScalar (cs : List Char) : Except Error (List Char) :=
  match cs with
  | 'n' :: rest => (word ['u', 'l', 'l'] rest).map (·.1)
  | 't' :: rest => (word ['r', 'u', 'e'] rest).map (·.1)
  | 'f' :: rest => (word ['a', 'l', 's', 'e'] rest).map (·.1)
  | '-' :: rest => skipNumeral rest
  | '"' :: rest => skipString rest
  | [] => .error .endInValue
  | c :: rest => if isDigit c then skipNumeral (c :: rest) else .error .expectedValue

theorem word_shorter {letters cs rest : List Char} (h : (word letters cs).map (·.1) = .ok rest) :
    rest.length ≤ cs.length := by
  cases hw : word letters cs with
  | error => rw [hw] at h; cases h
  | ok r => rw [hw] at h; cases h; exact r.2

/-- A skipped scalar leaves less than there was. -/
theorem skipScalar_shorter {cs rest : List Char} (h : skipScalar cs = .ok rest) : rest.length < cs.length := by
  rw [skipScalar.eq_def] at h
  split at h
  · exact Nat.lt_succ_of_le (word_shorter h)
  · exact Nat.lt_succ_of_le (word_shorter h)
  · exact Nat.lt_succ_of_le (word_shorter h)
  · exact Nat.lt_succ_of_lt (skipNumeral_shorter h)
  · exact Nat.lt_succ_of_lt (skipString_shorter h)
  · cases h
  · split at h
    · exact skipNumeral_shorter h
    · cases h

/-- Goes past what stands before the value of an entry: nothing in an array, a key and a colon in an object. -/
def skipToValue (b : Bracket) (cs : List Char) : Except Error (List Char) :=
  match b with
  | .array => .ok cs
  | .object =>
    match skipBlanks cs with
    | [] => .error .endInObject
    | '"' :: rest =>
      match skipString rest with
      | .error e => .error e
      | .ok rest' =>
        match skipBlanks rest' with
        | [] => .error .endInObject
        | ':' :: rest'' => .ok rest''
        | _ :: _ => .error .expectedColon
    | _ :: _ => .error .keyNotString

theorem skipToValue_length_le {b : Bracket} {cs rest : List Char} (h : skipToValue b cs = .ok rest) :
    rest.length ≤ cs.length := by
  cases b with
  | array => cases h; exact Nat.le_refl _
  | object =>
    rw [skipToValue] at h
    split at h
    · cases h
    · next r hb =>
      split at h
      · cases h
      · next r' hs =>
        split at h
        · cases h
        · next r'' hb' =>
          cases h
          have h₁ := skipBlanks_length_le cs
          have h₂ := skipString_shorter hs
          have h₃ := skipBlanks_length_le r'
          rw [hb] at h₁
          rw [hb'] at h₃
          simp only [List.length_cons] at h₁ h₃
          omega
        · cases h
    · cases h

mutual

/-- Goes past a value, and past the rest of the open arrays and objects. -/
def skipValue (stack : List Bracket) (cs : List Char) : Except Error (List Char) :=
  match _hb : skipBlanks cs with
  | [] => .error .endInValue
  | '[' :: rest => skipOpened .array stack rest
  | '\x7b' :: rest => skipOpened .object stack rest
  | c :: rest =>
    match _hs : skipScalar (c :: rest) with
    | .error e => .error e
    | .ok rest' => skipAfter stack rest'
  termination_by 2 * cs.length
  decreasing_by
    · have := length_lt_of_skipBlanks _hb
      omega
    · have := length_lt_of_skipBlanks _hb
      omega
    · have h := skipBlanks_length_le cs
      have := skipScalar_shorter _hs
      rw [_hb] at h
      omega

/-- Goes on after an opening bracket. -/
def skipOpened (b : Bracket) (stack : List Bracket) (cs : List Char) : Except Error (List Char) :=
  match _hb : skipBlanks cs with
  | [] => .error b.atEnd
  | c :: rest =>
    if c = b.close then skipAfter stack rest
    else
      match _hv : skipToValue b (c :: rest) with
      | .error e => .error e
      | .ok rest' => skipValue (b :: stack) rest'
  termination_by 2 * cs.length + 1
  decreasing_by
    · have := length_lt_of_skipBlanks _hb
      omega
    · have h := skipBlanks_length_le cs
      have := skipToValue_length_le _hv
      rw [_hb] at h
      omega

/-- Goes on after a value. -/
def skipAfter (stack : List Bracket) (cs : List Char) : Except Error (List Char) :=
  match stack with
  | [] => .ok cs
  | b :: stack =>
    match _hb : skipBlanks cs with
    | [] => .error b.atEnd
    | ',' :: rest =>
      match _hv : skipToValue b rest with
      | .error e => .error e
      | .ok rest' => skipValue (b :: stack) rest'
    | c :: rest => if c = b.close then skipAfter stack rest else .error b.noSeparator
  termination_by 2 * cs.length + 1
  decreasing_by
    · have := length_lt_of_skipBlanks _hb
      have := skipToValue_length_le _hv
      omega
    · have := length_lt_of_skipBlanks _hb
      omega

end

mutual

/-- A skipped value leaves less than there was. -/
theorem skipValue_shorter {stack : List Bracket} {cs rest : List Char} (h : skipValue stack cs = .ok rest) :
    rest.length < cs.length := by
  rw [skipValue] at h
  split at h
  · cases h
  · next r hb =>
    have hr := length_lt_of_skipBlanks hb
    have := skipOpened_length_le h
    omega
  · next r hb =>
    have hr := length_lt_of_skipBlanks hb
    have := skipOpened_length_le h
    omega
  · next c r _ _ hb =>
    split at h
    · cases h
    · next r' hs =>
      have hl := skipBlanks_length_le cs
      rw [hb] at hl
      have hr := Nat.lt_of_lt_of_le (skipScalar_shorter hs) hl
      have := skipAfter_length_le h
      omega
  termination_by 2 * cs.length
  decreasing_by all_goals omega

theorem skipOpened_length_le {b : Bracket} {stack : List Bracket} {cs rest : List Char}
    (h : skipOpened b stack cs = .ok rest) : rest.length ≤ cs.length := by
  rw [skipOpened] at h
  split at h
  · cases h
  · next c r hb =>
    have hr := length_lt_of_skipBlanks hb
    split at h
    · have := skipAfter_length_le h
      omega
    · split at h
      · cases h
      · next r' hv =>
        have hl := skipBlanks_length_le cs
        rw [hb] at hl
        have hr' := Nat.le_trans (skipToValue_length_le hv) hl
        have := skipValue_shorter h
        omega
  termination_by 2 * cs.length + 1
  decreasing_by all_goals omega

theorem skipAfter_length_le {stack : List Bracket} {cs rest : List Char} (h : skipAfter stack cs = .ok rest) :
    rest.length ≤ cs.length := by
  rw [skipAfter.eq_def] at h
  split at h
  · cases h; exact Nat.le_refl _
  · split at h
    · cases h
    · next r hb =>
      have hr := length_lt_of_skipBlanks hb
      split at h
      · cases h
      · next r' hv =>
        have := skipToValue_length_le hv
        have := skipValue_shorter h
        omega
    · next c r _ hb =>
      have hr := length_lt_of_skipBlanks hb
      split at h
      · have := skipAfter_length_le h
        omega
      · cases h
  termination_by 2 * cs.length + 1
  decreasing_by all_goals omega

end

/-- Reads a value of any type without keeping it. -/
def Reader.skip : Reader Unit := fun cs =>
  match h : skipValue [] cs with
  | .ok rest => .ok ⟨(), rest, skipValue_shorter h⟩
  | .error e => .error e

end CiMessage.Json
