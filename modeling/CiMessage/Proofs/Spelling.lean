import CiMessage.Json.Reader.Values
import CiMessage.Json.Reader.Skip

/-!
# How JSON values are spelled

A value can be written in many ways: with white space between its parts, its characters plain or escaped, its numerals
with or without an exponent. A `Spelling` is one of these ways, laid out as a tree whose leaves are characters:
`Spelling.chars` is the text. The trees are the grammar of JSON, whatever a reader makes of them.

* `Spelling.value` is the value that is meant, or what is wrong with it: an escaped surrogate without its partner, or a
  numeral out of range.
* `Spelling.depth` is how deep arrays and objects are nested.
* `Document` is a value with white space around it, a whole text.
-/

namespace CiMessage.Json

/-- White space. -/
structure Blanks where
  chars : List Char
  blank : ∀ c ∈ chars, isBlank c = true

/-- No white space. -/
def Blanks.none : Blanks := ⟨[], fun _ h => nomatch h⟩

/-- A space. -/
def Blanks.space : Blanks := ⟨[' '], fun _ hc => List.mem_singleton.1 hc ▸ rfl⟩

theorem eq_of_isBlank {c : Char} (h : isBlank c = true) : c = ' ' ∨ c = '\t' ∨ c = '\n' ∨ c = '\r' := by
  simpa [isBlank, or_assoc] using h

@[simp] theorem Blanks.skip (b : Blanks) (cs : List Char) : skipBlanks (b.chars ++ cs) = skipBlanks cs :=
  List.dropWhile_append_of_pos b.blank

theorem skipBlanks_of_not_blank {c : Char} (h : isBlank c = false) (cs : List Char) : skipBlanks (c :: cs) = c :: cs :=
  List.dropWhile_cons_of_neg (by simp [h])

/-! ## Strings -/

/-- Does the character stand for itself in a string? -/
def isPlain (c : Char) : Bool := c != '"' && c != '\\' && decide (' ' ≤ c)

/-- One sign of a string: a character that stands for itself, a backslash with a letter, or a backslash with `u` and
four hexadecimal digits. -/
inductive Glyph where
  | plain (c : Char) (h : isPlain c = true)
  | letter (c d : Char) (h : escapeLetter? c = some d)
  | number (a b c d : Char) (n : Nat) (h : hexQuad? a b c d = some n)

namespace Glyph

/-- The characters of a sign. -/
def chars : Glyph → List Char
  | plain c _ => [c]
  | letter c _ _ => ['\\', c]
  | number a b c d _ _ => ['\\', 'u', a, b, c, d]

theorem plain_append {c : Char} (h : isPlain c = true) (s : List Glyph) (cs : List Char) :
    (plain c h :: s).flatMap chars ++ cs = c :: (s.flatMap chars ++ cs) := rfl

theorem letter_append {c d : Char} (h : escapeLetter? c = some d) (s : List Glyph) (cs : List Char) :
    (letter c d h :: s).flatMap chars ++ cs = '\\' :: c :: (s.flatMap chars ++ cs) := rfl

theorem number_append {a b c d : Char} {n : Nat} (h : hexQuad? a b c d = some n) (s : List Glyph) (cs : List Char) :
    (number a b c d n h :: s).flatMap chars ++ cs = '\\' :: 'u' :: a :: b :: c :: d :: (s.flatMap chars ++ cs) := rfl

/-- The characters of a text that stand for themselves, as signs. -/
def plains (t : String) : List Glyph :=
  t.toList.filterMap fun c => if h : isPlain c = true then some (.plain c h) else none

/-- The characters that signs stand for. A number is one unit of UTF-16, so a character above U+FFFF takes two. -/
def decode : List Glyph → Except Error (List Char)
  | [] => .ok []
  | plain c _ :: rest => (c :: ·) <$> decode rest
  | letter _ d _ :: rest => (d :: ·) <$> decode rest
  | number _ _ _ _ n _ :: rest =>
    if isLowSurrogate n then .error .loneSurrogate
    else if isHighSurrogate n then
      match rest with
      | number _ _ _ _ m _ :: rest =>
        if isLowSurrogate m then (joinSurrogates n m :: ·) <$> decode rest else .error .loneSurrogate
      | _ => .error .unpairedSurrogate
    else (Char.ofNat n :: ·) <$> decode rest

/-- The text that signs stand for. -/
def text (s : List Glyph) : Except Error String := String.ofList <$> decode s

end Glyph

/-- The signs of a string between quotes. -/
def quoted (s : List Glyph) : List Char := '"' :: (s.flatMap Glyph.chars ++ ['"'])

@[simp] theorem quoted_append (s : List Glyph) (rest : List Char) :
    quoted s ++ rest = '"' :: (s.flatMap Glyph.chars ++ '"' :: rest) := by
  simp [quoted]

/-! ## Numerals -/

/-- A run of digits. -/
structure Digits where
  first : Char
  more : List Char
  digit : ∀ c ∈ first :: more, isDigit c = true

/-- The characters of a run of digits. -/
def Digits.chars (ds : Digits) : List Char := ds.first :: ds.more

theorem Digits.isDigit_first (ds : Digits) : isDigit ds.first = true := ds.digit _ List.mem_cons_self

theorem ne_of_isDigit {c d : Char} (hc : isDigit c = true) (hd : isDigit d = false) : c ≠ d := by
  rintro rfl
  rw [hc] at hd
  cases hd

theorem isBlank_of_isDigit {c : Char} (h : isDigit c = true) : isBlank c = false := by
  refine Bool.eq_false_iff.2 fun hb => ?_
  obtain rfl | rfl | rfl | rfl := eq_of_isBlank hb
  all_goals cases h

/-- The exponent of a numeral; of its sign, whether it is a minus. -/
structure Exponent where
  isCapital : Bool
  sign : Option Bool
  digits : Digits

/-- The letter that begins an exponent. -/
def Exponent.letter (e : Exponent) : Char := if e.isCapital then 'E' else 'e'

theorem Exponent.letter_eq (e : Exponent) : e.letter = 'e' ∨ e.letter = 'E' := by
  rw [letter]
  cases e.isCapital
  · exact .inl rfl
  · exact .inr rfl

/-- The characters of the sign of an exponent. -/
def Exponent.signChars (e : Exponent) : List Char :=
  match e.sign with
  | none => []
  | some false => ['+']
  | some true => ['-']

/-- The characters of an exponent. -/
def Exponent.chars (e : Exponent) : List Char := e.letter :: (e.signChars ++ e.digits.chars)

/-- The value of an exponent. -/
def Exponent.value (e : Exponent) : Int :=
  if e.sign = some true then -(digitsValue e.digits.chars : Int) else digitsValue e.digits.chars

/-- A numeral, without a superfluous zero at its front. -/
structure Numeral where
  isNegative : Bool
  whole : Digits
  fraction : Option Digits
  exponent : Option Exponent
  noExtraZero : whole.first = '0' → whole.more = []

namespace Numeral

/-- The characters of the fraction, with its point. -/
def fractionChars (n : Numeral) : List Char :=
  match n.fraction with
  | none => []
  | some ds => '.' :: ds.chars

/-- The characters of the exponent, if there is one. -/
def exponentChars (n : Numeral) : List Char :=
  match n.exponent with
  | none => []
  | some e => e.chars

/-- The characters after the sign. -/
def unsigned (n : Numeral) : List Char := n.whole.chars ++ (n.fractionChars ++ n.exponentChars)

/-- The characters of a numeral. -/
def chars (n : Numeral) : List Char := if n.isNegative then '-' :: n.unsigned else n.unsigned

/-- The number that is meant, unless it is out of range: exact for a whole numeral that fits, else a double. -/
def number? (n : Numeral) : Option Number :=
  let s := Significand.ofDigits n.whole.chars
  match n.fraction, n.exponent with
  | none, none =>
    if s.surplus = 0 then Number.ofWhole n.isNegative s.value
    else Number.ofDecimal n.isNegative s.value s.surplus
  | fraction, exponent =>
    let (value, taken) := takeFraction s.value 0 ((fraction.map Digits.chars).getD [])
    Number.ofDecimal n.isNegative value (s.surplus - taken + (exponent.map Exponent.value).getD 0)

end Numeral

/-! ## Values -/

/-- The key of a member, with the white space and the colon between it and the value. -/
structure Key where
  before : Blanks
  name : List Glyph
  after : Blanks

/-- The characters of a key and its colon. -/
def Key.chars (k : Key) : List Char := k.before.chars ++ (quoted k.name ++ (k.after.chars ++ [':']))

mutual

/-- A way to write a value. -/
inductive Spelling where
  | null
  | boolean (b : Bool)
  | number (n : Numeral)
  | string (s : List Glyph)
  | emptyArray (blanks : Blanks)
  | array (items : Items)
  | emptyObject (blanks : Blanks)
  | object (members : Members)

/-- Items with commas between them, and white space around each. -/
inductive Items where
  | one (before : Blanks) (v : Spelling) (after : Blanks)
  | cons (before : Blanks) (v : Spelling) (after : Blanks) (rest : Items)

/-- Members with commas between them, and white space around each value. -/
inductive Members where
  | one (key : Key) (before : Blanks) (v : Spelling) (after : Blanks)
  | cons (key : Key) (before : Blanks) (v : Spelling) (after : Blanks) (rest : Members)

end

mutual

/-- The characters of a value. -/
def Spelling.chars : Spelling → List Char
  | .null => ['n', 'u', 'l', 'l']
  | .boolean true => ['t', 'r', 'u', 'e']
  | .boolean false => ['f', 'a', 'l', 's', 'e']
  | .number n => n.chars
  | .string s => quoted s
  | .emptyArray b => '[' :: (b.chars ++ [']'])
  | .array items => '[' :: (items.chars ++ [']'])
  | .emptyObject b => '\x7b' :: (b.chars ++ ['\x7d'])
  | .object members => '\x7b' :: (members.chars ++ ['\x7d'])

/-- The characters of items. -/
def Items.chars : Items → List Char
  | .one b v a => b.chars ++ (v.chars ++ a.chars)
  | .cons b v a rest => b.chars ++ (v.chars ++ (a.chars ++ ',' :: rest.chars))

/-- The characters of members. -/
def Members.chars : Members → List Char
  | .one k b v a => k.chars ++ (b.chars ++ (v.chars ++ a.chars))
  | .cons k b v a rest => k.chars ++ (b.chars ++ (v.chars ++ (a.chars ++ ',' :: rest.chars)))

end

/-- The items one by one. -/
def Items.toList : Items → List Spelling
  | .one _ v _ => [v]
  | .cons _ v _ rest => v :: rest.toList

/-- The members one by one, each with the signs of its name. -/
def Members.toList : Members → List (List Glyph × Spelling)
  | .one k _ v _ => [(k.name, v)]
  | .cons k _ v _ rest => (k.name, v) :: rest.toList

mutual

/-- The value that is meant, or the first thing that is wrong with it. -/
def Spelling.value : Spelling → Except Error Value
  | .null => .ok .null
  | .boolean b => .ok (.boolean b)
  | .number n =>
    match n.number? with
    | some m => .ok (.number m)
    | none => .error .numberOutOfRange
  | .string s => .string <$> Glyph.text s
  | .emptyArray _ => .ok (.array [])
  | .array items => .array <$> items.values
  | .emptyObject _ => .ok (.object [])
  | .object members => .object <$> members.entries

/-- The values of items. -/
def Items.values : Items → Except Error (List Value)
  | .one _ v _ => (fun x => [x]) <$> v.value
  | .cons _ v _ rest => do
    let x ← v.value
    let xs ← rest.values
    return x :: xs

/-- The names and values of members. -/
def Members.entries : Members → Except Error (List (String × Value))
  | .one k _ v _ => do
    let name ← Glyph.text k.name
    let x ← v.value
    return [(name, x)]
  | .cons k _ v _ rest => do
    let name ← Glyph.text k.name
    let x ← v.value
    let xs ← rest.entries
    return (name, x) :: xs

end

/-- A numeral means a number. -/
theorem Spelling.exists_number {n : Numeral} {x : Value} (h : (Spelling.number n).value = .ok x) :
    ∃ m, x = .number m := by
  rw [value] at h
  split at h
  · cases h
    exact ⟨_, rfl⟩
  · cases h

mutual

/-- How deep arrays and objects are nested. -/
def Spelling.depth : Spelling → Nat
  | .null | .boolean _ | .number _ | .string _ => 0
  | .emptyArray _ | .emptyObject _ => 1
  | .array items => items.depth + 1
  | .object members => members.depth + 1

/-- How deep the items are nested. -/
def Items.depth : Items → Nat
  | .one _ v _ => v.depth
  | .cons _ v _ rest => max v.depth rest.depth

/-- How deep the members are nested. -/
def Members.depth : Members → Nat
  | .one _ _ v _ => v.depth
  | .cons _ _ v _ rest => max v.depth rest.depth

end

/-- A whole text: a value with white space around it. -/
structure Document where
  before : Blanks
  value : Spelling
  after : Blanks

/-- The text of a document. -/
def Document.text (doc : Document) : String := String.ofList (doc.before.chars ++ (doc.value.chars ++ doc.after.chars))

/-! ## How values begin -/

/-- A numeral begins with a minus or a digit. -/
theorem Numeral.exists_chars_eq_cons (n : Numeral) :
    ∃ c cs, n.chars = c :: cs ∧ isBlank c = false ∧ ∀ d, isDigit d = false → d ≠ '-' → c ≠ d := by
  have hfirst := n.whole.isDigit_first
  rw [chars]
  split
  · exact ⟨_, _, rfl, rfl, fun d _ hd => hd.symm⟩
  · exact ⟨_, _, rfl, isBlank_of_isDigit hfirst, fun d hd _ => ne_of_isDigit hfirst hd⟩

/-- The first character of a value is neither blank nor a closing bracket. -/
theorem Spelling.exists_chars_eq_cons (v : Spelling) :
    ∃ c cs, v.chars = c :: cs ∧ isBlank c = false ∧ c ≠ ']' := by
  cases v with
  | boolean b => cases b <;> exact ⟨_, _, rfl, rfl, by decide⟩
  | number n =>
    obtain ⟨c, cs, hc, hblank, hne⟩ := n.exists_chars_eq_cons
    exact ⟨c, cs, hc, hblank, hne ']' rfl (by decide)⟩
  | _ => exact ⟨_, _, rfl, rfl, by decide⟩

/-! ## What comes after a value -/

theorem Spelling.emptyArray_append (b : Blanks) (cs : List Char) :
    (emptyArray b).chars ++ cs = '[' :: (b.chars ++ ']' :: cs) := by
  simp only [chars, List.cons_append, List.append_assoc, List.nil_append]

theorem Spelling.array_append (items : Items) (cs : List Char) :
    (array items).chars ++ cs = '[' :: (items.chars ++ ']' :: cs) := by
  simp only [chars, List.cons_append, List.append_assoc, List.nil_append]

theorem Spelling.emptyObject_append (b : Blanks) (cs : List Char) :
    (emptyObject b).chars ++ cs = '\x7b' :: (b.chars ++ '\x7d' :: cs) := by
  simp only [chars, List.cons_append, List.append_assoc, List.nil_append]

theorem Spelling.object_append (members : Members) (cs : List Char) :
    (object members).chars ++ cs = '\x7b' :: (members.chars ++ '\x7d' :: cs) := by
  simp only [chars, List.cons_append, List.append_assoc, List.nil_append]

theorem Items.one_append (b : Blanks) (v : Spelling) (a : Blanks) (cs : List Char) :
    (one b v a).chars ++ cs = b.chars ++ (v.chars ++ (a.chars ++ cs)) := by
  simp only [chars, List.append_assoc]

theorem Items.cons_append (b : Blanks) (v : Spelling) (a : Blanks) (rest : Items) (cs : List Char) :
    (cons b v a rest).chars ++ cs = b.chars ++ (v.chars ++ (a.chars ++ ',' :: (rest.chars ++ cs))) := by
  simp only [chars, List.append_assoc, List.cons_append]

theorem Key.append (k : Key) (cs : List Char) :
    k.chars ++ cs = k.before.chars ++ '"' :: (k.name.flatMap Glyph.chars ++ '"' :: (k.after.chars ++ ':' :: cs)) := by
  simp only [chars, List.append_assoc, quoted_append, List.cons_append, List.nil_append]

theorem Members.one_append (k : Key) (b : Blanks) (v : Spelling) (a : Blanks) (cs : List Char) :
    (one k b v a).chars ++ cs = k.chars ++ (b.chars ++ (v.chars ++ (a.chars ++ cs))) := by
  simp only [chars, List.append_assoc]

theorem Members.cons_append (k : Key) (b : Blanks) (v : Spelling) (a : Blanks) (rest : Members) (cs : List Char) :
    (cons k b v a rest).chars ++ cs = k.chars ++ (b.chars ++ (v.chars ++ (a.chars ++ ',' :: (rest.chars ++ cs)))) := by
  simp only [chars, List.append_assoc, List.cons_append]

/-! ## Items begin with a value -/

/-- The same items without white space at the front. -/
def Items.flush : Items → Items
  | .one _ v a => .one .none v a
  | .cons _ v a rest => .cons .none v a rest

theorem Items.skip (items : Items) (cs : List Char) : skipBlanks (items.chars ++ cs) = items.flush.chars ++ cs := by
  cases items with
  | one b v a =>
    obtain ⟨c, t, hv, hblank, -⟩ := v.exists_chars_eq_cons
    rw [one_append, flush, one_append, b.skip, hv, List.cons_append, skipBlanks_of_not_blank hblank]
    rfl
  | cons b v a rest =>
    obtain ⟨c, t, hv, hblank, -⟩ := v.exists_chars_eq_cons
    rw [cons_append, flush, cons_append, b.skip, hv, List.cons_append, skipBlanks_of_not_blank hblank]
    rfl

theorem Items.toList_flush (items : Items) : items.flush.toList = items.toList := by
  cases items <;> rfl

/-- Items do not begin like the end of an array. -/
theorem Items.exists_flush_eq_cons (items : Items) :
    ∃ c t, items.flush.chars = c :: t ∧ isBlank c = false ∧ c ≠ ']' := by
  cases items with
  | one _ v _ =>
    obtain ⟨c, t, hv, hc⟩ := v.exists_chars_eq_cons
    exact ⟨c, _, by rw [flush, chars, hv]; rfl, hc⟩
  | cons _ v _ _ =>
    obtain ⟨c, t, hv, hc⟩ := v.exists_chars_eq_cons
    exact ⟨c, _, by rw [flush, chars, hv]; rfl, hc⟩

/-! ## Members begin with a key -/

/-- The white space before members. -/
def Members.before : Members → Blanks
  | .one k _ _ _ => k.before
  | .cons k _ _ _ _ => k.before

/-- What follows the first quote of members, with the text after them. -/
def Members.unquoted (cs : List Char) : Members → List Char
  | .one k b v a =>
    k.name.flatMap Glyph.chars ++ '"' :: (k.after.chars ++ ':' :: (b.chars ++ (v.chars ++ (a.chars ++ cs))))
  | .cons k b v a rest =>
    k.name.flatMap Glyph.chars ++
      '"' :: (k.after.chars ++ ':' :: (b.chars ++ (v.chars ++ (a.chars ++ ',' :: (rest.chars ++ cs)))))

theorem Members.append (members : Members) (cs : List Char) :
    members.chars ++ cs = members.before.chars ++ '"' :: members.unquoted cs := by
  cases members with
  | one => rw [one_append, Key.append, before, unquoted]
  | cons => rw [cons_append, Key.append, before, unquoted]

end CiMessage.Json
