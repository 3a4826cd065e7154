import CiMessage.Json.Reader

/-!
# Numerals

A numeral is a minus sign if it is below zero, digits without a superfluous zero at the front, and possibly a fraction
and an exponent. A whole numeral that fits is exact. Any other is the double of its first digits, as many as fit in 64
bits, times a power of ten that counts the whole digits left out and the fraction digits taken in.
-/

namespace CiMessage.Json

/-- Is this a decimal digit? -/
def isDigit (c : Char) : Bool := '0' ≤ c && c ≤ '9'

/-- The value of a decimal digit. -/
def digitValue (c : Char) : Nat := c.toNat - '0'.toNat

/-- The whole digits read: the number they make while it fits in 64 bits, and how many came after that. -/
structure Significand where
  value : Nat
  surplus : Nat

/-- One more whole digit. -/
def Significand.push (s : Significand) (c : Char) : Significand :=
  let next := s.value * 10 + digitValue c
  if s.surplus = 0 ∧ next ≤ Number.greatest then ⟨next, 0⟩ else ⟨s.value, s.surplus + 1⟩

/-- The significand of a run of digits. -/
def Significand.ofDigits (ds : List Char) : Significand := ds.foldl push ⟨0, 0⟩

/-- Takes fraction digits into a significand while it fits in 64 bits; also how many were taken. -/
def takeFraction (value taken : Nat) : List Char → Nat × Nat
  | [] => (value, taken)
  | c :: rest =>
    let next := value * 10 + digitValue c
    if next ≤ Number.greatest then takeFraction next (taken + 1) rest else (value, taken)

/-- The number of a run of digits. -/
def digitsValue (ds : List Char) : Nat := ds.foldl (fun n c => n * 10 + digitValue c) 0

/-- Reads the digits of an exponent. -/
def exponentDigits (cs : List Char) : Except Error (Nat × List Char) :=
  match cs with
  | [] => .error .endInValue
  | c :: _ =>
    if isDigit c then .ok (digitsValue (cs.takeWhile isDigit), cs.dropWhile isDigit) else .error .invalidNumber

/-- Reads an exponent, after its `e`. -/
def exponent (cs : List Char) : Except Error (Int × List Char) :=
  match cs with
  | '+' :: rest => (exponentDigits rest).map fun r => (r.1, r.2)
  | '-' :: rest => (exponentDigits rest).map fun r => (-r.1, r.2)
  | _ => (exponentDigits cs).map fun r => (r.1, r.2)

/-- Gives a number, if it is in range, and the rest of the text. -/
def inRange (n : Option Number) (rest : List Char) : Except Error (Number × List Char) :=
  match n with
  | some n => .ok (n, rest)
  | none => .error .numberOutOfRange

/-- Reads the exponent, if there is one, of a decimal whose digits are read. -/
def afterFraction (isNegative : Bool) (significand : Nat) (scale : Int) (cs : List Char) :
    Except Error (Number × List Char) :=
  match cs with
  | [] => inRange (Number.ofDecimal isNegative significand scale) []
  | c :: rest =>
    if c = 'e' ∨ c = 'E' then
      match exponent rest with
      | .ok (e, rest') => inRange (Number.ofDecimal isNegative significand (scale + e)) rest'
      | .error e => .error e
    else inRange (Number.ofDecimal isNegative significand scale) (c :: rest)

/-- Reads the fraction and the exponent, if there are any, after the whole digits. -/
def afterWhole (isNegative : Bool) (s : Significand) (cs : List Char) : Except Error (Number × List Char) :=
  match cs with
  | '.' :: rest =>
    match rest.takeWhile isDigit with
    | [] => .error (if rest.isEmpty then .endInValue else .invalidNumber)
    | ds =>
      let (value, taken) := takeFraction s.value 0 ds
      afterFraction isNegative value (s.surplus - taken) (rest.dropWhile isDigit)
  | _ =>
    if s.surplus = 0 ∧ cs.head? ≠ some 'e' ∧ cs.head? ≠ some 'E' then inRange (Number.ofWhole isNegative s.value) cs
    else afterFraction isNegative s.value s.surplus cs

/-- Reads a numeral, after its sign. -/
def numeralBody (isNegative : Bool) (cs : List Char) : Except Error (Number × List Char) :=
  match cs with
  | [] => .error .endInValue
  | c :: rest =>
    if !isDigit c then .error .invalidNumber
    else if c = '0' ∧ rest.head?.any isDigit then .error .invalidNumber
    else afterWhole isNegative (.ofDigits (cs.takeWhile isDigit)) (cs.dropWhile isDigit)

/-! ## Numerals leave less than they were given -/

theorem dropWhile_length_le (p : Char → Bool) (cs : List Char) : (cs.dropWhile p).length ≤ cs.length :=
  (List.dropWhile_suffix p).length_le

theorem exponentDigits_shorter {cs rest : List Char} {n : Nat} (h : exponentDigits cs = .ok (n, rest)) :
    rest.length < cs.length := by
  cases cs with
  | nil => cases h
  | cons c cs =>
    rw [exponentDigits] at h
    split at h
    · next hd =>
      cases h
      rw [List.dropWhile_cons, if_pos hd]
      exact Nat.lt_succ_of_le (dropWhile_length_le _ _)
    · cases h

theorem exponent_shorter {cs rest : List Char} {e : Int} (h : exponent cs = .ok (e, rest)) :
    rest.length < cs.length := by
  rw [exponent.eq_def] at h
  split at h
  all_goals
    cases hd : exponentDigits _ with
    | error => rw [hd] at h; cases h
    | ok r =>
      rw [hd] at h
      have := exponentDigits_shorter hd
      cases h
      first | exact this | exact Nat.lt_succ_of_lt this

theorem inRange_rest {n : Option Number} {m : Number} {cs rest : List Char} (h : inRange n cs = .ok (m, rest)) :
    rest = cs := by
  cases n <;> cases h
  rfl

theorem afterFraction_length_le {isNegative : Bool} {v : Nat} {k : Int} {cs rest : List Char} {n : Number}
    (h : afterFraction isNegative v k cs = .ok (n, rest)) : rest.length ≤ cs.length := by
  cases cs with
  | nil => obtain rfl := inRange_rest h; exact Nat.le_refl _
  | cons c cs =>
    rw [afterFraction] at h
    split at h
    · cases he : exponent cs with
      | error => rw [he] at h; cases h
      | ok r =>
        rw [he] at h
        have := exponent_shorter he
        rw [inRange_rest h]
        simp only [List.length_cons]
        omega
    · obtain rfl := inRange_rest h; exact Nat.le_refl _

theorem afterWhole_length_le {isNegative : Bool} {s : Significand} {cs rest : List Char} {n : Number}
    (h : afterWhole isNegative s cs = .ok (n, rest)) : rest.length ≤ cs.length := by
  rw [afterWhole.eq_def] at h
  split at h
  · next r =>
    split at h
    · cases h
    · have := afterFraction_length_le h
      have := dropWhile_length_le isDigit r
      simp only [List.length_cons]
      omega
  · split at h
    · obtain rfl := inRange_rest h; exact Nat.le_refl _
    · exact afterFraction_length_le h

theorem numeralBody_shorter {isNegative : Bool} {cs rest : List Char} {n : Number}
    (h : numeralBody isNegative cs = .ok (n, rest)) : rest.length < cs.length := by
  cases cs with
  | nil => cases h
  | cons c cs =>
    rw [numeralBody] at h
    split at h
    · cases h
    · next hd =>
      split at h
      · cases h
      · have := afterWhole_length_le h
        have hd : isDigit c = true := by simpa using hd
        rw [List.dropWhile_cons, if_pos hd] at this
        have := dropWhile_length_le isDigit cs
        simp only [List.length_cons]
        omega

/-- Reads a numeral, after its sign. -/
def numeral (isNegative : Bool) : Reader Number := fun cs =>
  match h : numeralBody isNegative cs with
  | .ok (n, rest) => .ok ⟨n, rest, numeralBody_shorter h⟩
  | .error e => .error e

/-! ## Numerals that are not wanted -/

/-- Goes past the exponent of a numeral, after its `e`. -/
def skipExponent (cs : List Char) : Except Error (List Char) :=
  let digits :=
    match cs with
    | '+' :: rest => rest
    | '-' :: rest => rest
    | _ => cs
  match digits with
  | c :: rest => if isDigit c then .ok (rest.dropWhile isDigit) else .error .invalidNumber
  | [] => .error .invalidNumber

/-- Goes past the exponent of a numeral, if there is one. -/
def skipOptionalExponent (cs : List Char) : Except Error (List Char) :=
  match cs with
  | 'e' :: rest => skipExponent rest
  | 'E' :: rest => skipExponent rest
  | _ => .ok cs

/-- Goes past the fraction and the exponent of a numeral, if there are any. -/
def skipFraction (cs : List Char) : Except Error (List Char) :=
  match cs with
  | '.' :: c :: rest => if isDigit c then skipOptionalExponent (rest.dropWhile isDigit) else .error .invalidNumber
  | ['.'] => .error .invalidNumber
  | _ => skipOptionalExponent cs

/-- Goes past a numeral of any size, after its sign. -/
def skipNumeral (cs : List Char) : Except Error (List Char) :=
  match cs with
  | [] => .error .invalidNumber
  | c :: rest =>
    if !isDigit c then .error .invalidNumber
    else if c = '0' then if rest.head?.any isDigit then .error .invalidNumber else skipFraction rest
    else skipFraction (rest.dropWhile isDigit)

theorem skipExponent_length_le {cs rest : List Char} (h : skipExponent cs = .ok rest) : rest.length ≤ cs.length := by
  have key : ∀ {ds : List Char}, ds.length ≤ cs.length →
      (match ds with
        | c :: rest => if isDigit c then Except.ok (rest.dropWhile isDigit) else .error Error.invalidNumber
        | [] => .error .invalidNumber) = .ok rest → rest.length ≤ cs.length := by
    intro ds hl h
    cases ds with
    | nil => cases h
    | cons c ds =>
      simp only at h
      split at h
      · cases h
        have := dropWhile_length_le isDigit ds
        simp only [List.length_cons] at hl
        omega
      · cases h
  rw [skipExponent.eq_def] at h
  refine key ?_ h
  split
  · exact Nat.le_succ _
  · exact Nat.le_succ _
  · exact Nat.le_refl _

theorem skipOptionalExponent_length_le {cs rest : List Char} (h : skipOptionalExponent cs = .ok rest) :
    rest.length ≤ cs.length := by
  rw [skipOptionalExponent.eq_def] at h
  split at h
  · exact Nat.le_succ_of_le (skipExponent_length_le h)
  · exact Nat.le_succ_of_le (skipExponent_length_le h)
  · cases h; exact Nat.le_refl _

theorem skipFraction_length_le {cs rest : List Char} (h : skipFraction cs = .ok rest) : rest.length ≤ cs.length := by
  rw [skipFraction.eq_def] at h
  split at h
  · next c r =>
    split at h
    · have := skipOptionalExponent_length_le h
      have := dropWhile_length_le isDigit r
      simp only [List.length_cons]
      omega
    · cases h
  · cases h
  · exact skipOptionalExponent_length_le h

theorem skipNumeral_shorter {cs rest : List Char} (h : skipNumeral cs = .ok rest) : rest.length < cs.length := by
  cases cs with
  | nil => cases h
  | cons c cs =>
    rw [skipNumeral] at h
    split at h
    · cases h
    · split at h
      · split at h
        · cases h
        · exact Nat.lt_succ_of_le (skipFraction_length_le h)
      · have := skipFraction_length_le h
        have := dropWhile_length_le isDigit cs
        simp only [List.length_cons]
        omega

end CiMessage.Json
