import CiMessage.Proofs.Decoding
import Mathlib.Data.Nat.Find
import Mathlib.Logic.ExistsUnique

/-!
# Bytes as they are shown

`Utf8.Shows` says, without a decoder, which text shows which bytes: a character is shown where its bytes stand, and where
none stands U+FFFD is shown for an undecodable part. Such a part is the longest run of bytes that begins a character, or
a single byte if that begins none (`Utf8.Undecodable`).

All bytes are shown by a text (`exists_shows`), and `decodeLossy` finds it (`shows_iff`), so there is one only
(`existsUnique_shows`). The decoder reads an undecodable part at once (`decodeFrom_undecodable`): while it is within a
character, what it has read can be completed (`begins_of_within`), and what begins a character leaves it within one
(`within_of_begins`).
-/

namespace CiMessage.Utf8

/-- The bytes are the first ones of a character. -/
def Begins (bytes : List UInt8) : Prop := ∃ c, bytes <+: String.utf8EncodeChar c

/-- An undecodable part, and the bytes after it. -/
structure Undecodable (part rest : List UInt8) : Prop where
  /-- No character stands here. -/
  noChar : ∀ c, ¬ String.utf8EncodeChar c <+: part ++ rest
  /-- The part begins a character, or is a single byte. -/
  begun : part.length = 1 ∨ part ≠ [] ∧ Begins part
  /-- More bytes would begin none. -/
  longest : ∀ longer, longer <+: part ++ rest → part.length < longer.length → ¬ Begins longer

/-- The text that shows bytes. -/
inductive Shows : List UInt8 → List Char → Prop
  | nil : Shows [] []
  | char (c : Char) {bytes : List UInt8} {text : List Char} (h : Shows bytes text) :
      Shows (String.utf8EncodeChar c ++ bytes) (c :: text)
  | undecodable {part rest : List UInt8} {text : List Char} (hp : Undecodable part rest) (h : Shows rest text) :
      Shows (part ++ rest) (replacement :: text)

variable {part rest bytes : List UInt8} {text : List Char} {p : Partial} {b : UInt8} {c : Char}

/-! ## Every byte string is shown -/

theorem Undecodable.ne_nil (h : Undecodable part rest) : part ≠ [] := by
  obtain hone | ⟨hne, -⟩ := h.begun
  · exact List.ne_nil_of_length_eq_add_one hone
  · exact hne

/-- Where no character stands, there is an undecodable part. -/
theorem exists_undecodable (hne : bytes ≠ []) (h : ∀ c, ¬ String.utf8EncodeChar c <+: bytes) :
    ∃ part rest, bytes = part ++ rest ∧ Undecodable part rest := by
  classical
  -- as many bytes as begin a character, one at least
  let P : Nat → Prop := fun n => n = 1 ∨ Begins (bytes.take n)
  let n := Nat.findGreatest P bytes.length
  have hlen : 1 ≤ bytes.length := List.length_pos_iff.2 hne
  have hone : 1 ≤ n := Nat.le_findGreatest hlen (.inl rfl)
  have hn : P n := Nat.findGreatest_spec hlen (.inl rfl)
  have hle : n ≤ bytes.length := Nat.findGreatest_le _
  have hpart : (bytes.take n).length = n := by rw [List.length_take, Nat.min_eq_left hle]
  refine ⟨bytes.take n, bytes.drop n, (List.take_append_drop n bytes).symm, ?_, ?_, ?_⟩
  · rwa [List.take_append_drop]
  · obtain hn | hn := hn
    · exact .inl (hpart.trans hn)
    · exact .inr ⟨List.ne_nil_of_length_pos (by omega), hn⟩
  · intro longer hlonger hlt hbegins
    rw [List.take_append_drop] at hlonger
    rw [hpart] at hlt
    rw [List.prefix_iff_eq_take.1 hlonger] at hbegins
    exact Nat.findGreatest_is_greatest (P := P) hlt hlonger.length_le (.inr hbegins)

/-- **All bytes are shown by a text.** -/
theorem exists_shows (bytes : List UInt8) : ∃ text, Shows bytes text := by
  induction hn : bytes.length using Nat.strong_induction_on generalizing bytes with
  | _ n ih =>
    by_cases hne : bytes = []
    · exact ⟨[], hne ▸ .nil⟩
    by_cases hchar : ∃ c, String.utf8EncodeChar c <+: bytes
    · obtain ⟨c, rest, rfl⟩ := hchar
      have hpos : 0 < (String.utf8EncodeChar c).length := by
        rw [String.length_utf8EncodeChar]
        exact c.utf8Size_pos
      rw [List.length_append] at hn
      obtain ⟨text, htext⟩ := ih rest.length (by omega) rest rfl
      exact ⟨_, .char c htext⟩
    · obtain ⟨part, rest, rfl, hp⟩ := exists_undecodable hne (not_exists.1 hchar)
      have hpos := List.length_pos_iff.2 hp.ne_nil
      rw [List.length_append] at hn
      obtain ⟨text, htext⟩ := ih rest.length (by omega) rest rfl
      exact ⟨_, .undecodable hp htext⟩

/-! ## Within a character -/

/-- After these bytes the decoder is within this character. -/
def Within (part : List UInt8) (p : Partial) : Prop :=
  ∀ rest, decodeFrom none (part ++ rest) = decodeFrom (some p) rest

theorem decodeFrom_ne_nil (state : Option Partial) (hne : bytes ≠ []) : decodeFrom state bytes ≠ [] := by
  induction bytes generalizing state with
  | nil => exact absurd rfl hne
  | cons b rest ih =>
    have hsome : ∀ p, decodeFrom (some p) rest ≠ [] := by
      intro p
      cases rest with
      | nil => exact List.cons_ne_nil _ _
      | cons b' rest' => exact ih (some p) (List.cons_ne_nil _ _)
    cases state with
    | none =>
      rw [decodeFrom]
      cases lead b with
      | char c => exact List.cons_ne_nil _ _
      | begins p => exact hsome p
      | invalid => exact List.cons_ne_nil _ _
    | some p =>
      rw [decodeFrom]
      split
      · split
        · exact List.cons_ne_nil _ _
        · exact hsome _
      · cases lead b <;> exact List.cons_ne_nil _ _

/-- A part that is read on within a character leaves the decoder within one, or something is read of it. -/
theorem stays_or_reads (p : Partial) (part : List UInt8) :
    (∃ q, ∀ rest, decodeFrom (some p) (part ++ rest) = decodeFrom (some q) rest) ∨
      ∃ unit left, ∀ rest, decodeFrom (some p) (part ++ rest) = unit :: decodeFrom none (left ++ rest) := by
  induction part generalizing p with
  | nil => exact .inl ⟨p, fun _ => rfl⟩
  | cons b part ih =>
    by_cases hin : p.low ≤ b ∧ b ≤ p.high
    · simp only [List.cons_append, decodeFrom, if_pos hin]
      by_cases hlast : p.missing ≤ 1
      · simp only [if_pos hlast]
        exact .inr ⟨_, part, fun _ => rfl⟩
      · simp only [if_neg hlast]
        exact ih _
    · exact .inr ⟨none, b :: part, fun rest => decodeFrom_break hin _⟩

/-- A part that is read at the start of a character leaves the decoder within one, or something is read of it. -/
theorem within_or_reads (hne : part ≠ []) :
    (∃ p, Within part p) ∨
      ∃ unit left, ∀ rest, decodeFrom none (part ++ rest) = unit :: decodeFrom none (left ++ rest) := by
  obtain ⟨b, part, rfl⟩ := List.exists_cons_of_ne_nil hne
  simp only [Within, List.cons_append, decodeFrom]
  cases lead b with
  | char c => exact .inr ⟨_, part, fun _ => rfl⟩
  | begins p => exact stays_or_reads p part
  | invalid => exact .inr ⟨_, part, fun _ => rfl⟩

/-- **What begins a character leaves the decoder within one,** if it is not the whole character. -/
theorem within_of_begins {more : List UInt8} (hne : part ≠ []) (hmore : more ≠ [])
    (h : part ++ more = String.utf8EncodeChar c) : ∃ p, Within part p := by
  obtain hwithin | ⟨unit, left, hread⟩ := within_or_reads hne
  · exact hwithin
  · -- nothing can be read after the character
    have hchar := decodeFrom_char c []
    rw [List.append_nil, ← h, hread] at hchar
    exact absurd (List.cons.inj hchar).2 (decodeFrom_ne_nil _ (List.append_ne_nil_of_right_ne_nil _ hmore))

/-- A character is completed by bytes that continue it. -/
theorem decodeFrom_complete (n : Nat) (hn : p.missing - 1 = n) (hl : p.low ≤ b) (hh : b ≤ p.high) :
    ∃ c, decodeFrom (some p) (b :: List.replicate n 0x80) = [some c] := by
  induction n generalizing p b with
  | zero =>
    rw [decodeFrom, if_pos ⟨hl, hh⟩, if_pos (by omega)]
    exact ⟨_, rfl⟩
  | succ n ih =>
    rw [decodeFrom, if_pos ⟨hl, hh⟩, if_neg (by omega), List.replicate_succ]
    have hin : (0x80 : UInt8) ≤ 0x80 ∧ (0x80 : UInt8) ≤ 0xBF := by decide
    exact ih (by dsimp only; omega) hin.1 hin.2

/-- **Within a character, a byte that continues it begins a character** with the bytes before it. -/
theorem begins_of_within (h : Within part p) (hl : p.low ≤ b) (hh : b ≤ p.high) : Begins (part ++ [b]) := by
  obtain ⟨c, hc⟩ := decodeFrom_complete _ rfl hl hh
  rw [← h] at hc
  refine ⟨c, List.replicate (p.missing - 1) 0x80, ?_⟩
  have hbytes := eq_flatMap_of_decodeFrom (l := [c]) hc
  simpa using hbytes

/-! ## Undecodable parts -/

/-- The decoder is within a character after an undecodable part, unless that is a byte that begins none. -/
theorem Undecodable.within_or_invalid (h : Undecodable part rest) :
    (∃ p, Within part p) ∨ ∃ b, part = [b] ∧ lead b = .invalid := by
  obtain hone | ⟨hne, c, more, hmore⟩ := h.begun
  · obtain ⟨b, rfl⟩ := List.length_eq_one_iff.1 hone
    cases hlead : lead b with
    | char c =>
      have hc : decodeFrom none [b] = [c].map some := by simp only [decodeFrom, hlead, List.map_cons, List.map_nil]
      have hbytes := eq_flatMap_of_decodeFrom hc
      rw [List.flatMap_singleton] at hbytes
      exact absurd ⟨rest, by rw [← hbytes]⟩ (h.noChar c)
    | begins p => exact .inl ⟨p, fun rest => by simp only [List.singleton_append, decodeFrom, hlead]⟩
    | invalid => exact .inr ⟨b, rfl, hlead⟩
  · by_cases hnil : more = []
    · rw [hnil, List.append_nil] at hmore
      exact absurd ⟨rest, by rw [hmore]⟩ (h.noChar c)
    · exact .inl (within_of_begins hne hnil hmore)

/-- **An undecodable part is read at once.** -/
theorem decodeFrom_undecodable (h : Undecodable part rest) :
    decodeFrom none (part ++ rest) = none :: decodeFrom none rest := by
  obtain ⟨p, hp⟩ | ⟨b, rfl, hb⟩ := h.within_or_invalid
  · rw [hp]
    cases rest with
    | nil => rfl
    | cons b rest =>
      refine decodeFrom_break (fun hin => ?_) rest
      have hprefix : part ++ [b] <+: part ++ b :: rest := ⟨rest, by simp⟩
      exact h.longest _ hprefix (by simp) (begins_of_within hp hin.1 hin.2)
  · simp only [List.singleton_append, decodeFrom, hb]

theorem decodeLossy_of_shows (h : Shows bytes text) : decodeLossy bytes = String.ofList text := by
  rw [decodeLossy, decodeUnits]
  congr 1
  induction h with
  | nil => rfl
  | char c _ ih => rw [decodeFrom_char, List.map_cons, ih, Option.getD_some]
  | undecodable hp _ ih => rw [decodeFrom_undecodable hp, List.map_cons, ih, Option.getD_none]

/-- **A text shows the bytes** when they are decoded to it. -/
theorem shows_iff {s : String} : Shows bytes s.toList ↔ decodeLossy bytes = s := by
  constructor
  · intro h
    rw [decodeLossy_of_shows h, String.ofList_toList]
  · intro h
    obtain ⟨text, htext⟩ := exists_shows bytes
    rw [decodeLossy_of_shows htext] at h
    rwa [← h, String.toList_ofList]

/-- All bytes are shown by one text. -/
theorem existsUnique_shows (bytes : List UInt8) : ∃! s : String, Shows bytes s.toList :=
  ⟨decodeLossy bytes, shows_iff.2 rfl, fun _ h => (shows_iff.1 h).symm⟩

end CiMessage.Utf8
