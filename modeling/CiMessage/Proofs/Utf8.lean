import CiMessage.SortedMap
import CiMessage.Text.Utf8

/-!
# Texts and their bytes

What `Utf8.encode` writes is read back, also after bytes that are no text, and it keeps the order of texts.

* A character is read back from its bytes (`decodeFrom_char`), whatever was begun before it: its first byte continues
  nothing, so what was begun ends as an undecodable part (`decodeFrom_append_char`).
* Hence a text is read back after any bytes (`decodeUnits_append_encode`). Bytes are shown as they are exactly when they
  are those of a text (`encode_decodeLossy_iff`), and what comes before a text in a text is a text
  (`exists_encode_of_append`).
* Two texts with the same bytes are the same (`encode_inj`), and a byte below 0x80 occurs in a text only as its character
  (`mem_encode_iff`).
* One text comes before another when its bytes come before the other's bytes (`encode_lt_iff`), so the keys of a map come
  in the order of their bytes (`SortedMap.pairwise_encode_keys`).
-/

namespace CiMessage

namespace Utf8

/-! ## Bytes of a character -/

/-- The first byte of a character of one byte is the character. -/
theorem lead_one : ∀ v < 0x80, lead (UInt8.ofNat v) = .char (Char.ofNat v) := by decide

/-- The first byte of a character of two bytes holds five bits; one below two would be an overlong form. -/
theorem lead_two : ∀ v < 0x20, 2 ≤ v → lead (UInt8.ofNat (v + 0xC0)) = .begins ⟨1, 0x80, 0xBF, v⟩ := by decide

/-- The first byte of a character of three bytes holds four bits. After some of them the next byte is restricted. -/
theorem lead_three : ∀ v < 0x10, lead (UInt8.ofNat (v + 0xE0)) =
    .begins ⟨2, if v = 0 then 0xA0 else 0x80, if v = 0xD then 0x9F else 0xBF, v⟩ := by decide

/-- The first byte of a character of four bytes holds three bits. After some of them the next byte is restricted. -/
theorem lead_four : ∀ v < 5, lead (UInt8.ofNat (v + 0xF0)) =
    .begins ⟨3, if v = 0 then 0x90 else 0x80, if v = 4 then 0x8F else 0xBF, v⟩ := by decide

/-- A byte that continues a character adds six bits. -/
theorem decodeFrom_continue {p : Partial} {n : Nat} (hl : p.low.toNat ≤ n % 64 + 128)
    (hh : n % 64 + 128 ≤ p.high.toNat) (rest : List UInt8) :
    decodeFrom (some p) (UInt8.ofNat (n % 64 + 128) :: rest) =
      if p.missing ≤ 1 then some (Char.ofNat (p.bits * 64 + n % 64)) :: decodeFrom none rest
      else decodeFrom (some ⟨p.missing - 1, 0x80, 0xBF, p.bits * 64 + n % 64⟩) rest := by
  have hb : (UInt8.ofNat (n % 64 + 128)).toNat = n % 64 + 128 := by
    rw [UInt8.toNat_ofNat']
    omega
  have hin : p.low ≤ UInt8.ofNat (n % 64 + 128) ∧ UInt8.ofNat (n % 64 + 128) ≤ p.high := by
    simp only [UInt8.le_iff_toNat_le, hb]
    exact ⟨hl, hh⟩
  have hw : p.with (UInt8.ofNat (n % 64 + 128)) = p.bits * 64 + n % 64 := by
    rw [Partial.with, hb]
    omega
  rw [decodeFrom, if_pos hin, hw]

/-- A byte that does not continue a character ends it, and is read anew. -/
theorem decodeFrom_break {p : Partial} {b : UInt8} (h : ¬ (p.low ≤ b ∧ b ≤ p.high)) (rest : List UInt8) :
    decodeFrom (some p) (b :: rest) = none :: decodeFrom none (b :: rest) := by
  simp only [decodeFrom, if_neg h]
  split <;> rfl

/-- Reads a character of two bytes. -/
theorem decodeFrom_two {v : Nat} (hl : 0x7F < v) (hh : v ≤ 0x7FF) (rest : List UInt8) :
    decodeFrom none (UInt8.ofNat (v / 64 % 32 + 192) :: UInt8.ofNat (v % 64 + 128) :: rest) =
      some (Char.ofNat v) :: decodeFrom none rest := by
  rw [decodeFrom, lead_two _ (by omega) (by omega)]
  dsimp only
  rw [decodeFrom_continue (by simp) (by simp; omega), if_pos (by simp),
    show v / 64 % 32 * 64 + v % 64 = v by omega]

/-- Reads a character of three bytes. -/
theorem decodeFrom_three {v : Nat} (hl : 0x7FF < v) (hh : v ≤ 0xFFFF) (hs : v < 0xD800 ∨ 0xDFFF < v)
    (rest : List UInt8) :
    decodeFrom none (UInt8.ofNat (v / 4096 % 16 + 224) :: UInt8.ofNat (v / 64 % 64 + 128) ::
        UInt8.ofNat (v % 64 + 128) :: rest) = some (Char.ofNat v) :: decodeFrom none rest := by
  rw [decodeFrom, lead_three _ (by omega)]
  dsimp only
  have hlow : (if v / 4096 % 16 = 0 then 0xA0 else 0x80 : UInt8).toNat ≤ v / 64 % 64 + 128 := by
    split <;> simp
    omega
  have hhigh : v / 64 % 64 + 128 ≤ (if v / 4096 % 16 = 0xD then 0x9F else 0xBF : UInt8).toNat := by
    split <;> simp <;> omega
  rw [decodeFrom_continue hlow hhigh, if_neg (by simp), decodeFrom_continue (by simp) (by simp; omega),
    if_pos (by simp), show (v / 4096 % 16 * 64 + v / 64 % 64) * 64 + v % 64 = v by omega]

/-- Reads a character of four bytes. -/
theorem decodeFrom_four {v : Nat} (hl : 0xFFFF < v) (hh : v < 0x110000) (rest : List UInt8) :
    decodeFrom none (UInt8.ofNat (v / 262144 % 8 + 240) :: UInt8.ofNat (v / 4096 % 64 + 128) ::
        UInt8.ofNat (v / 64 % 64 + 128) :: UInt8.ofNat (v % 64 + 128) :: rest) =
      some (Char.ofNat v) :: decodeFrom none rest := by
  rw [decodeFrom, show v / 262144 % 8 = v / 262144 by omega, lead_four _ (by omega)]
  dsimp only
  have hlow : (if v / 262144 = 0 then 0x90 else 0x80 : UInt8).toNat ≤ v / 4096 % 64 + 128 := by
    split <;> simp
    omega
  have hhigh : v / 4096 % 64 + 128 ≤ (if v / 262144 = 4 then 0x8F else 0xBF : UInt8).toNat := by
    split <;> simp <;> omega
  rw [decodeFrom_continue hlow hhigh, if_neg (by simp), decodeFrom_continue (by simp) (by simp; omega),
    if_neg (by simp), decodeFrom_continue (by simp) (by simp; omega), if_pos (by simp),
    show ((v / 262144 * 64 + v / 4096 % 64) * 64 + v / 64 % 64) * 64 + v % 64 = v by omega]

/-- **A character is read back.** -/
theorem decodeFrom_char (c : Char) (rest : List UInt8) :
    decodeFrom none (String.utf8EncodeChar c ++ rest) = some c :: decodeFrom none rest := by
  have hv : c.val.toNat < 0xD800 ∨ 0xDFFF < c.val.toNat ∧ c.val.toNat < 0x110000 := c.valid
  have hc : Char.ofNat c.val.toNat = c := Char.ofNat_toNat c
  unfold String.utf8EncodeChar
  generalize c.val.toNat = v at hv hc ⊢
  simp only []
  split
  · rw [List.singleton_append, decodeFrom, lead_one v (by omega), hc]
  split
  · simp only [List.cons_append, List.nil_append]
    rw [decodeFrom_two (by omega) (by omega), hc]
  split
  · simp only [List.cons_append, List.nil_append]
    rw [decodeFrom_three (by omega) (by omega) (by omega), hc]
  · simp only [List.cons_append, List.nil_append]
    rw [decodeFrom_four (by omega) (by omega), hc]

/-- A byte below the continuing ones stands for its character only. -/
theorem mem_utf8EncodeChar_iff {c : Char} {b : UInt8} (hb : b < 0x80) :
    b ∈ String.utf8EncodeChar c ↔ c = Char.ofNat b.toNat := by
  have hv : c.val.toNat < 0xD800 ∨ 0xDFFF < c.val.toNat ∧ c.val.toNat < 0x110000 := c.valid
  have hb' : b.toNat < 0x80 := hb
  have hascii : ∀ v < 0x80, (Char.ofNat v).toNat = v := by decide
  have hc : c = Char.ofNat b.toNat ↔ c.val.toNat = b.toNat := by
    rw [← Char.toNat_inj, hascii _ hb']
    rfl
  rw [hc]
  unfold String.utf8EncodeChar
  generalize c.val.toNat = v at hv ⊢
  simp only []
  repeat' split
  all_goals simp (disch := omega) only [List.mem_cons, List.not_mem_nil, or_false, ← UInt8.toNat_inj, UInt8.toNat_ofNat',
    Nat.mod_eq_of_lt]
  all_goals omega

/-! ## Characters after other bytes -/

/-- Within this character only continuing bytes are read on. -/
def Partial.IsOpen (p : Partial) : Prop := 0x80 ≤ p.low ∧ p.high ≤ 0xBF

theorem isOpen_of_lead {b : UInt8} {p : Partial} (h : lead b = .begins p) : p.IsOpen := by
  unfold lead at h
  repeat' split at h
  all_goals cases h
  all_goals constructor <;> dsimp only <;> decide

theorem isOpen_continued (missing bits : Nat) : Partial.IsOpen ⟨missing, 0x80, 0xBF, bits⟩ :=
  ⟨UInt8.le_refl _, UInt8.le_refl _⟩

/-- The first byte of a character continues none. -/
theorem head_utf8EncodeChar (c : Char) :
    ∃ b tail, String.utf8EncodeChar c = b :: tail ∧ ∀ p : Partial, p.IsOpen → ¬ (p.low ≤ b ∧ b ≤ p.high) := by
  have hv : c.val.toNat < 0xD800 ∨ 0xDFFF < c.val.toNat ∧ c.val.toNat < 0x110000 := c.valid
  suffices h : ∃ b tail, String.utf8EncodeChar c = b :: tail ∧ (b.toNat < 0x80 ∨ 0xBF < b.toNat) by
    obtain ⟨b, tail, he, hb⟩ := h
    refine ⟨b, tail, he, fun p hp hin => ?_⟩
    simp only [Partial.IsOpen, UInt8.le_iff_toNat_le, UInt8.reduceToNat] at hp hin
    omega
  unfold String.utf8EncodeChar
  generalize c.val.toNat = v at hv ⊢
  simp only []
  repeat' split
  all_goals refine ⟨_, _, rfl, ?_⟩
  all_goals rw [UInt8.toNat_ofNat']
  all_goals omega

/-- **A character is read back after any bytes;** what they left begun ends there. -/
theorem decodeFrom_append_char (c : Char) (rest bytes : List UInt8) (state : Option Partial)
    (hs : ∀ p ∈ state, p.IsOpen) :
    decodeFrom state (bytes ++ (String.utf8EncodeChar c ++ rest)) =
      decodeFrom state bytes ++ some c :: decodeFrom none rest := by
  have hstart : ∀ p ∈ (none : Option Partial), p.IsOpen := by simp
  have hbegun : ∀ {q : Partial}, q.IsOpen → ∀ p ∈ some q, p.IsOpen := by
    rintro q hq p ⟨⟩
    exact hq
  induction bytes generalizing state with
  | nil =>
    have hc := decodeFrom_char c rest
    cases state with
    | none => exact hc
    | some p =>
      obtain ⟨b, tail, he, hb⟩ := head_utf8EncodeChar c
      rw [he, List.cons_append] at hc ⊢
      rw [List.nil_append, decodeFrom_break (hb p (hs p rfl)), hc]
      rfl
  | cons b bytes ih =>
    -- what the byte does at the start of a character, and then within one
    have hnone : decodeFrom none (b :: bytes ++ (String.utf8EncodeChar c ++ rest)) =
        decodeFrom none (b :: bytes) ++ some c :: decodeFrom none rest := by
      simp only [List.cons_append, decodeFrom]
      cases hl : lead b with
      | char c' => simp [ih none hstart]
      | begins p => simp [ih (some p) (hbegun (isOpen_of_lead hl))]
      | invalid => simp [ih none hstart]
    cases state with
    | none => exact hnone
    | some p =>
      by_cases hin : p.low ≤ b ∧ b ≤ p.high
      · simp only [List.cons_append, decodeFrom, if_pos hin]
        split
        · simp [ih none hstart]
        · exact ih _ (hbegun (isOpen_continued _ _))
      · rw [decodeFrom_break hin, List.cons_append, decodeFrom_break hin, ← List.cons_append, hnone]
        rfl

/-! ## Texts -/

theorem encode_append (s t : String) : encode (s ++ t) = encode s ++ encode t := by
  rw [encode, String.toList_append, List.flatMap_append, encode, encode]

theorem decodeFrom_flatMap (l : List Char) : decodeFrom none (l.flatMap String.utf8EncodeChar) = l.map some := by
  induction l with
  | nil => rfl
  | cons c rest ih => rw [List.flatMap_cons, decodeFrom_char, ih, List.map_cons]

/-- **A text is read back after any bytes.** -/
theorem decodeUnits_append_encode (bytes : List UInt8) (s : String) :
    decodeUnits (bytes ++ encode s) = decodeUnits bytes ++ s.toList.map some := by
  rw [decodeUnits, decodeUnits, encode]
  cases s.toList with
  | nil => simp
  | cons c rest =>
    have hstart : ∀ p ∈ (none : Option Partial), p.IsOpen := by simp
    rw [List.flatMap_cons, decodeFrom_append_char c _ _ _ hstart, decodeFrom_flatMap, List.map_cons]

/-- **A text is read back from its bytes.** -/
@[simp] theorem decodeLossy_encode (s : String) : decodeLossy (encode s) = s := by
  have h := decodeUnits_append_encode [] s
  rw [List.nil_append] at h
  rw [decodeLossy, h]
  simp [decodeUnits, decodeFrom, Function.comp_def]

/-- A text has a byte below the continuing ones where it has its character. -/
theorem mem_encode_iff {s : String} {b : UInt8} (hb : b < 0x80) : b ∈ encode s ↔ Char.ofNat b.toNat ∈ s.toList := by
  rw [encode, List.mem_flatMap]
  constructor
  · rintro ⟨c, hc, hbc⟩
    rw [← (mem_utf8EncodeChar_iff hb).1 hbc]
    exact hc
  · intro hc
    exact ⟨_, hc, (mem_utf8EncodeChar_iff hb).2 rfl⟩

/-- Texts with the same bytes are the same. -/
theorem encode_inj {s t : String} : encode s = encode t ↔ s = t := by
  refine ⟨fun h => ?_, fun h => congrArg encode h⟩
  rw [← decodeLossy_encode s, h, decodeLossy_encode]

/-- **Bytes are shown as they are** exactly when they are the bytes of a text. -/
theorem encode_decodeLossy_iff {bytes : List UInt8} : encode (decodeLossy bytes) = bytes ↔ ∃ s, bytes = encode s := by
  constructor
  · intro h
    exact ⟨_, h.symm⟩
  · rintro ⟨s, rfl⟩
    rw [decodeLossy_encode]

/-- What comes before a text in the bytes of a text is a text. -/
theorem exists_encode_of_append {bytes : List UInt8} {s t : String} (h : bytes ++ encode t = encode s) :
    ∃ u, bytes = encode u := by
  have hunits := decodeUnits_append_encode bytes t
  have hs := decodeUnits_append_encode [] s
  rw [List.nil_append] at hs
  rw [h, hs] at hunits
  obtain ⟨l, m, hl, -, hm⟩ := List.map_eq_append_iff.1 (show s.toList.map some = _ from hunits)
  have hmt : m = t.toList := (List.map_inj_right fun _ _ => Option.some.inj).1 hm
  have hbytes : bytes ++ encode t = encode (String.ofList l) ++ encode t := by
    rw [h, encode, hl, hmt, List.flatMap_append, encode, encode, String.toList_ofList]
  exact ⟨_, List.append_cancel_right hbytes⟩

/-! ## Order -/

/-- The bytes of a smaller character come first, whatever follows. -/
theorem utf8EncodeChar_lt {c d : Char} (h : c < d) (x y : List UInt8) :
    String.utf8EncodeChar c ++ x < String.utf8EncodeChar d ++ y := by
  have hc : c.val.toNat < 0xD800 ∨ 0xDFFF < c.val.toNat ∧ c.val.toNat < 0x110000 := c.valid
  have hd : d.val.toNat < 0xD800 ∨ 0xDFFF < d.val.toNat ∧ d.val.toNat < 0x110000 := d.valid
  have hlt : c.val.toNat < d.val.toNat := h
  unfold String.utf8EncodeChar
  generalize c.val.toNat = v at hc hlt ⊢
  generalize d.val.toNat = w at hd hlt ⊢
  -- of characters with different numbers of bytes the first bytes differ, of others the first differing six bits do
  simp only []
  repeat' split
  all_goals simp (disch := omega) only [List.cons_append, List.cons_lt_cons_iff, UInt8.lt_iff_toNat_lt,
    ← UInt8.toNat_inj, UInt8.toNat_ofNat', Nat.mod_eq_of_lt]
  all_goals omega

theorem encode_lt_of_lt {s t : String} (h : s < t) : encode s < encode t := by
  rw [String.lt_iff] at h
  unfold encode
  generalize s.toList = l at h ⊢
  generalize t.toList = m at h ⊢
  induction h with
  | nil =>
    obtain ⟨b, tail, he, -⟩ := head_utf8EncodeChar _
    rw [List.flatMap_cons, he]
    exact List.nil_lt_cons _ _
  | rel hlt => exact utf8EncodeChar_lt hlt _ _
  | cons _ ih =>
    rw [List.flatMap_cons, List.flatMap_cons]
    generalize String.utf8EncodeChar _ = p
    induction p with
    | nil => exact ih
    | cons b p ihp => exact List.cons_lt_cons_iff.2 (.inr ⟨rfl, ihp⟩)

/-- **The order of texts is the order of their bytes.** -/
theorem encode_lt_iff {s t : String} : encode s < encode t ↔ s < t := by
  refine ⟨fun h => Decidable.byContradiction fun hn => ?_, encode_lt_of_lt⟩
  by_cases hgt : t < s
  · exact List.lt_asymm h (encode_lt_of_lt hgt)
  · have he : s = t := String.le_antisymm (String.not_lt.1 hgt) (String.not_lt.1 hn)
    rw [he] at h
    exact List.lt_irrefl _ h

theorem encode_lt_of_compare {s t : String} (h : compare s t = .lt) : encode s < encode t := by
  change compareOfLessAndEq s t = .lt at h
  exact encode_lt_iff.2 (compareOfLessAndEq_eq_lt.1 h)

end Utf8

/-- The keys of a map are in the order of their bytes. -/
theorem SortedMap.pairwise_encode_keys {ν : Type} (m : SortedMap String ν) :
    m.keys.Pairwise fun a b => Utf8.encode a < Utf8.encode b :=
  List.pairwise_map.2 (m.ascending.imp Utf8.encode_lt_of_compare)

end CiMessage
