import CiMessage.Proofs.Utf8

/-!
# Bytes that are texts

`Utf8.decode?` refuses bytes with an undecodable part. Here it accepts exactly the bytes of texts
(`decode?_eq_some_iff`): bytes that are read without an undecodable part are those of the characters read, one
character after the other (`eq_flatMap_of_decodeFrom`). A first byte says how many bytes its character has and restricts
the next one (`lead_cases`), and within these ranges every number is that of a character which is written with just these
bytes (`utf8EncodeChar_ofNat`).
-/

namespace CiMessage.Utf8

theorem mapM_id_eq_some_iff {units : List (Option Char)} {l : List Char} :
    units.mapM id = some l ↔ units = l.map some := by
  induction units generalizing l with
  | nil => cases l <;> simp
  | cons u rest ih =>
    rw [List.mapM_cons]
    cases u with
    | none => cases l <;> simp
    | some c =>
      have hsome : (do let c ← id (some c); let m ← rest.mapM id; pure (c :: m)) = some l ↔
          ∃ m, rest.mapM id = some m ∧ c :: m = l := by
        simp [Option.bind_eq_some_iff]
      rw [hsome]
      constructor
      · rintro ⟨m, hm, rfl⟩
        rw [ih.1 hm, List.map_cons]
      · intro h
        cases l with
        | nil => cases h
        | cons d l =>
          obtain ⟨hc, hrest⟩ := List.cons.inj h
          cases hc
          exact ⟨l, ih.2 hrest, rfl⟩

/-- What is read within a character without an undecodable part begins with a byte that continues it. -/
theorem exists_of_decodeFrom_some {p : Partial} {bytes : List UInt8} {l : List Char}
    (h : decodeFrom (some p) bytes = l.map some) :
    ∃ b rest, bytes = b :: rest ∧ p.low.toNat ≤ b.toNat ∧ b.toNat ≤ p.high.toNat ∧
      (if p.missing ≤ 1 then some (Char.ofNat (p.with b)) :: decodeFrom none rest
        else decodeFrom (some ⟨p.missing - 1, 0x80, 0xBF, p.with b⟩) rest) = l.map some := by
  cases bytes with
  | nil => cases l <;> simp [decodeFrom] at h
  | cons b rest =>
    by_cases hin : p.low ≤ b ∧ b ≤ p.high
    · rw [decodeFrom, if_pos hin] at h
      exact ⟨b, rest, rfl, hin.1, hin.2, h⟩
    · rw [decodeFrom_break hin] at h
      cases l <;> simp at h

theorem toNat_ofNat {v : Nat} (h : v < 0xD800 ∨ 0xDFFF < v ∧ v < 0x110000) : (Char.ofNat v).val.toNat = v := by
  have hv : v.isValidChar := h
  rw [Char.ofNat, dif_pos hv]
  rfl

/-- The bytes of a character by its number. -/
theorem utf8EncodeChar_ofNat {v : Nat} (h : v < 0xD800 ∨ 0xDFFF < v ∧ v < 0x110000) :
    String.utf8EncodeChar (Char.ofNat v) =
      if v ≤ 0x7F then [UInt8.ofNat v]
      else if v ≤ 0x7FF then [UInt8.ofNat (v / 64 % 32 + 192), UInt8.ofNat (v % 64 + 128)]
      else if v ≤ 0xFFFF then
        [UInt8.ofNat (v / 4096 % 16 + 224), UInt8.ofNat (v / 64 % 64 + 128), UInt8.ofNat (v % 64 + 128)]
      else
        [UInt8.ofNat (v / 262144 % 8 + 240), UInt8.ofNat (v / 4096 % 64 + 128), UInt8.ofNat (v / 64 % 64 + 128),
          UInt8.ofNat (v % 64 + 128)] := by
  unfold String.utf8EncodeChar
  rw [toNat_ofNat h]

/-- What a first byte says, by its ranges: how long its character is, and how the next byte is restricted so that the
character is written no longer than it has to be, is no surrogate and not above U+10FFFF. -/
theorem lead_cases (b : UInt8) :
    (b.toNat < 0x80 ∧ lead b = .char (Char.ofNat b.toNat)) ∨
    (0xC2 ≤ b.toNat ∧ b.toNat < 0xE0 ∧ lead b = .begins ⟨1, 0x80, 0xBF, b.toNat - 0xC0⟩) ∨
    (∃ low high, (0xE0 ≤ b.toNat ∧ b.toNat < 0xF0) ∧ lead b = .begins ⟨2, low, high, b.toNat - 0xE0⟩ ∧
      (0x80 ≤ low.toNat ∧ high.toNat ≤ 0xBF) ∧ (b.toNat = 0xE0 → low.toNat = 0xA0) ∧
      (b.toNat = 0xED → high.toNat = 0x9F)) ∨
    (∃ low high, (0xF0 ≤ b.toNat ∧ b.toNat < 0xF5) ∧ lead b = .begins ⟨3, low, high, b.toNat - 0xF0⟩ ∧
      (0x80 ≤ low.toNat ∧ high.toNat ≤ 0xBF) ∧ (b.toNat = 0xF0 → low.toNat = 0x90) ∧
      (b.toNat = 0xF4 → high.toNat = 0x8F)) ∨
    lead b = .invalid := by
  have hlt : ∀ c : UInt8, b < c ↔ b.toNat < c.toNat := fun _ => Iff.rfl
  have heq : ∀ c : UInt8, b = c ↔ b.toNat = c.toNat := fun _ => UInt8.toNat_inj.symm
  unfold lead
  simp only [hlt, heq, UInt8.reduceToNat]
  split
  · exact .inl ⟨by assumption, rfl⟩
  split
  · exact .inr (.inr (.inr (.inr rfl)))
  split
  · exact .inr (.inl ⟨by omega, by assumption, rfl⟩)
  split
  · refine .inr (.inr (.inl ⟨_, _, ⟨by omega, by assumption⟩, rfl, ⟨?_, ?_⟩, ?_, ?_⟩))
    · split <;> simp
    · split <;> simp
    · intro h; rw [if_pos h]; rfl
    · intro h; rw [if_pos h]; rfl
  split
  · refine .inr (.inr (.inr (.inl ⟨_, _, ⟨by omega, by assumption⟩, rfl, ⟨?_, ?_⟩, ?_, ?_⟩)))
    · split <;> simp
    · split <;> simp
    · intro h; rw [if_pos h]; rfl
    · intro h; rw [if_pos h]; rfl
  · exact .inr (.inr (.inr (.inr rfl)))

/-- Bytes that are read without undecodable parts are those of the characters read. -/
theorem eq_flatMap_of_decodeFrom {bytes : List UInt8} {l : List Char} (h : decodeFrom none bytes = l.map some) :
    bytes = l.flatMap String.utf8EncodeChar := by
  -- the bytes read are those of one character, and those after it are fewer
  have step : ∀ (read : List UInt8) {rest : List UInt8} {v : Nat}, String.utf8EncodeChar (Char.ofNat v) = read →
      some (Char.ofNat v) :: decodeFrom none rest = l.map some → rest.length < bytes.length →
      read ++ rest = l.flatMap String.utf8EncodeChar := by
    intro read rest v hread hl hlt
    cases l with
    | nil => cases hl
    | cons c l =>
      obtain ⟨hc, hrest⟩ := List.cons.inj hl
      cases hc
      rw [List.flatMap_cons, hread, ← eq_flatMap_of_decodeFrom hrest]
  match bytes, h with
  | [], h =>
    cases l with
    | nil => rfl
    | cons c l => cases h
  | b :: rest, h =>
    rw [decodeFrom] at h
    obtain ⟨hb, he⟩ | ⟨hl, hh, he⟩ | ⟨low, high, hb, he, hr, hlow, hhigh⟩ | ⟨low, high, hb, he, hr, hlow, hhigh⟩ | he :=
      lead_cases b <;> rw [he] at h <;> dsimp only at h
    · refine step [b] ?_ h (Nat.lt_succ_self _)
      rw [utf8EncodeChar_ofNat (by omega), if_pos (by omega), UInt8.ofNat_toNat]
    · obtain ⟨b₁, rest, rfl, hl₁, hh₁, h⟩ := exists_of_decodeFrom_some h
      rw [if_pos (Nat.le_refl _)] at h
      simp only [UInt8.reduceToNat] at hl₁ hh₁
      refine step [b, b₁] ?_ h (by simp only [List.length_cons]; omega)
      simp only [Partial.with]
      rw [utf8EncodeChar_ofNat (by omega), if_neg (by omega), if_pos (by omega)]
      simp only [List.cons.injEq, and_true, ← UInt8.toNat_inj, UInt8.toNat_ofNat']
      omega
    · obtain ⟨b₁, rest, rfl, hl₁, hh₁, h⟩ := exists_of_decodeFrom_some h
      rw [if_neg (by simp)] at h
      obtain ⟨b₂, rest, rfl, hl₂, hh₂, h⟩ := exists_of_decodeFrom_some h
      rw [if_pos (by simp)] at h
      simp only [UInt8.reduceToNat] at hl₁ hh₁ hl₂ hh₂
      refine step [b, b₁, b₂] ?_ h (by simp only [List.length_cons]; omega)
      simp only [Partial.with]
      rw [utf8EncodeChar_ofNat (by omega), if_neg (by omega), if_neg (by omega), if_pos (by omega)]
      simp only [List.cons.injEq, and_true, ← UInt8.toNat_inj, UInt8.toNat_ofNat']
      omega
    · obtain ⟨b₁, rest, rfl, hl₁, hh₁, h⟩ := exists_of_decodeFrom_some h
      rw [if_neg (by simp)] at h
      obtain ⟨b₂, rest, rfl, hl₂, hh₂, h⟩ := exists_of_decodeFrom_some h
      rw [if_neg (by simp)] at h
      obtain ⟨b₃, rest, rfl, hl₃, hh₃, h⟩ := exists_of_decodeFrom_some h
      rw [if_pos (by simp)] at h
      simp only [UInt8.reduceToNat] at hl₁ hh₁ hl₂ hh₂ hl₃ hh₃
      refine step [b, b₁, b₂, b₃] ?_ h (by simp only [List.length_cons]; omega)
      simp only [Partial.with]
      rw [utf8EncodeChar_ofNat (by omega), if_neg (by omega), if_neg (by omega), if_neg (by omega)]
      simp only [List.cons.injEq, and_true, ← UInt8.toNat_inj, UInt8.toNat_ofNat']
      omega
    · cases l <;> cases h
  termination_by bytes.length

/-- **A text is decoded from its bytes,** and no other bytes are decoded. -/
theorem decode?_eq_some_iff {bytes : List UInt8} {s : String} : decode? bytes = some s ↔ bytes = encode s := by
  rw [decode?, Option.map_eq_some_iff]
  constructor
  · rintro ⟨l, hl, rfl⟩
    rw [encode, String.toList_ofList]
    exact eq_flatMap_of_decodeFrom (mapM_id_eq_some_iff.1 hl)
  · rintro rfl
    refine ⟨s.toList, ?_, String.ofList_toList⟩
    rw [mapM_id_eq_some_iff, decodeUnits, encode, decodeFrom_flatMap]

end CiMessage.Utf8
