import CiMessage.Proofs.AcceptedConfig
import CiMessage.Proofs.Overrides
import CiMessage.Proofs.Trimming
import Mathlib.Data.List.Forall2

/-!
# Words for booleans

Two overrides switch something on or off. Their texts have a grammar: white space, one of eight words with any of its
letters as ASCII capitals, and white space again (`Config.Spells`). The texts of the grammar are the ones that are
accepted, and the boolean of the word is what they set (`Config.override_switch`). All other texts are reported as they
are, also the ones that Unicode would fold to a word.

The texts are recognized in two steps, and each one is characterized for itself. What trimming leaves is the text in the
middle (`Text.strips_iff`), and small letters come from the words with some capitals only (`Text.lowerAscii_eq_iff`).
-/

namespace CiMessage

namespace Text

/-! ## Letters of any size -/

/-- The first text is the second one, with some of its letters as ASCII capitals. -/
def CaseVariant (s word : String) : Prop :=
  List.Forall₂ (fun c d => c = d ∨ c = Char.toUpper d) s.toList word.toList

instance (s word : String) : Decidable (CaseVariant s word) :=
  inferInstanceAs (Decidable (List.Forall₂ _ _ _))

theorem isUpper_eq_false_iff {c : Char} : c.isUpper = false ↔ ¬ (65 ≤ c.toNat ∧ c.toNat ≤ 90) :=
  decide_eq_false_iff_not

/-- A small letter comes 32 characters after its capital. -/
theorem toNat_toLower (c : Char) :
    c.toLower.toNat = if 65 ≤ c.toNat ∧ c.toNat ≤ 90 then c.toNat + 32 else c.toNat := by
  by_cases h : 65 ≤ c.toNat ∧ c.toNat ≤ 90
  · have hcapital : c.val ≥ 'A'.val ∧ c.val ≤ 'Z'.val := h
    have hlower : c.toLower.val = c.val + ('a'.val - 'A'.val) := by
      rw [show c.toLower = _ from dif_pos hcapital]
    have hshift : ('a'.val - 'A'.val).toNat = 32 := rfl
    rw [if_pos h, ← Char.toNat_val, hlower, UInt32.toNat_add, Char.toNat_val]
    omega
  · have hcapital : ¬ (c.val ≥ 'A'.val ∧ c.val ≤ 'Z'.val) := h
    have hlower : c.toLower = c := dif_neg hcapital
    rw [if_neg h, hlower]

theorem toNat_toUpper (c : Char) :
    c.toUpper.toNat = if 97 ≤ c.toNat ∧ c.toNat ≤ 122 then c.toNat - 32 else c.toNat := by
  by_cases h : 97 ≤ c.toNat ∧ c.toNat ≤ 122
  · have hsmall : 'a'.val ≤ c.val ∧ c.val ≤ 'z'.val := h
    have hupper : c.toUpper.val = c.val + ('A'.val - 'a'.val) := by
      rw [show c.toUpper = _ from dif_pos hsmall]
    -- the difference wraps around
    have hshift : ('A'.val - 'a'.val).toNat = 2 ^ 32 - 32 := rfl
    rw [if_pos h, ← Char.toNat_val, hupper, UInt32.toNat_add, Char.toNat_val]
    omega
  · have hsmall : ¬ ('a'.val ≤ c.val ∧ c.val ≤ 'z'.val) := h
    have hupper : c.toUpper = c := dif_neg hsmall
    rw [if_neg h, hupper]

/-- A character that is no capital is the small form of itself and of its capital only. -/
theorem toLower_eq_iff {c d : Char} (hd : d.isUpper = false) : c.toLower = d ↔ c = d ∨ c = d.toUpper := by
  rw [isUpper_eq_false_iff] at hd
  simp only [← Char.toNat_inj, toNat_toLower, toNat_toUpper]
  split <;> split <;> omega

theorem map_toLower_eq_iff {cs ds : List Char} (h : ∀ d ∈ ds, d.isUpper = false) :
    cs.map Char.toLower = ds ↔ List.Forall₂ (fun c d => c = d ∨ c = Char.toUpper d) cs ds := by
  induction ds generalizing cs with
  | nil => rw [List.map_eq_nil_iff, List.forall₂_nil_right_iff]
  | cons d ds ih =>
    have hd := h d List.mem_cons_self
    have hds := fun d hd => h d (List.mem_cons_of_mem _ hd)
    cases cs with
    | nil => simp
    | cons c cs => rw [List.map_cons, List.cons_eq_cons, List.forall₂_cons, toLower_eq_iff hd, ih hds]

/-- **Small letters come from a word with some capitals.** -/
theorem lowerAscii_eq_iff {s word : String} (h : ∀ d ∈ word.toList, d.isUpper = false) :
    lowerAscii s = word ↔ CaseVariant s word := by
  rw [CaseVariant, ← map_toLower_eq_iff h, lowerAscii, ← String.toList_inj, String.toList_ofList]

/-- Letters are no white space. -/
theorem isBlank_of_letter {c : Char} (h : 65 ≤ c.toNat ∧ c.toNat ≤ 122) : isBlank c = false := by
  simp only [isBlank, Bool.or_eq_false_iff, Bool.and_eq_false_iff, decide_eq_false_iff_not, beq_eq_false_iff_ne]
  omega

theorem isBlank_toLower (c : Char) : isBlank c.toLower = isBlank c := by
  have hlower := toNat_toLower c
  split at hlower
  · next h => rw [isBlank_of_letter (by omega), isBlank_of_letter (by omega)]
  · rw [Char.toNat_inj.1 hlower]

/-- A text without white space in its small letters has none at its ends. -/
theorem bare_of_lowerAscii {s word : String} (h : lowerAscii s = word) (hword : ∀ d ∈ word.toList, isBlank d = false) :
    Bare s := by
  have hblank : ∀ c ∈ s.toList, isBlank c = false := by
    intro c hc
    rw [← isBlank_toLower]
    apply hword
    rw [← h, lowerAscii, String.toList_ofList]
    exact List.mem_map_of_mem hc
  exact ⟨fun c hc => hblank c (List.mem_of_mem_head? hc), fun c hc => hblank c (List.mem_of_mem_getLast? hc)⟩

end Text

namespace Config

open Text (AllBlank CaseVariant)

/-! ## The grammar -/

/-- The words, and the booleans they stand for. -/
def vocabulary : List (String × Bool) :=
  [("1", true), ("true", true), ("yes", true), ("on", true), ("0", false), ("false", false), ("no", false),
    ("off", false)]

/-- The text is a word for the boolean, in letters of any size, with white space before and after it. -/
inductive Spells : String → Bool → Prop
  | word {lead word trail keyword : String} {b : Bool} (hlead : AllBlank lead) (hword : CaseVariant word keyword)
    (hkeyword : (keyword, b) ∈ vocabulary) (htrail : AllBlank trail) : Spells (lead ++ word ++ trail) b

theorem mem_vocabulary_iff {keyword : String} {b : Bool} : (keyword, b) ∈ vocabulary ↔ keyword ∈ Override.words b := by
  cases b <;> simp [vocabulary, Override.words]

/-- Words are in small letters and digits. -/
theorem letters_of_mem_vocabulary {keyword : String} {b : Bool} (h : (keyword, b) ∈ vocabulary) :
    ∀ d ∈ keyword.toList, d.isUpper = false ∧ Text.isBlank d = false := by
  have hall : ∀ entry ∈ vocabulary, (entry.1.toList.all fun d => !d.isUpper && !Text.isBlank d) = true := by
    decide
  simpa using hall (keyword, b) h

theorem not_mem_words {keyword : String} (h : keyword ∈ Override.words false) : keyword ∉ Override.words true := by
  revert keyword
  decide

/-- A text stands for a boolean when a word for it is left in small letters, without the white space at the ends. -/
theorem boolean?_eq_some_iff_mem {raw : String} {b : Bool} :
    Override.boolean? raw = some b ↔ (Text.lowerAscii (Text.trim raw), b) ∈ vocabulary := by
  rw [mem_vocabulary_iff, Override.boolean?]
  cases b with
  | true => simp
  | false =>
    by_cases hno : Text.lowerAscii (Text.trim raw) ∈ Override.words false
    · simp [hno, not_mem_words hno]
    · simp [hno]

/-- **The texts of the grammar** are the ones that stand for booleans. -/
theorem boolean?_eq_some_iff {raw : String} {b : Bool} : Override.boolean? raw = some b ↔ Spells raw b := by
  rw [boolean?_eq_some_iff_mem]
  constructor
  · intro hmem
    -- the white space around the word is what trimming drops
    obtain ⟨⟨lead, trail, hlead, htrail, hraw⟩, -⟩ := Text.strips_iff.2 (rfl : Text.trim raw = Text.trim raw)
    have hvariant : CaseVariant (Text.trim raw) (Text.lowerAscii (Text.trim raw)) :=
      (Text.lowerAscii_eq_iff fun d hd => (letters_of_mem_vocabulary hmem d hd).1).1 rfl
    rw [hraw]
    exact .word hlead hvariant hmem htrail
  · rintro ⟨hlead, hword, hkeyword, htrail⟩
    -- trimming leaves the word, which has no white space in it
    have hletters := letters_of_mem_vocabulary hkeyword
    have hlower := (Text.lowerAscii_eq_iff fun d hd => (hletters d hd).1).2 hword
    have hbare := Text.bare_of_lowerAscii hlower fun d hd => (hletters d hd).2
    have htrim := Text.strips_iff.1 ⟨⟨_, _, hlead, htrail, rfl⟩, hbare⟩
    rwa [← htrim, hlower]

/-- No text spells two booleans. -/
theorem Spells.unique {raw : String} {b b' : Bool} (h : Spells raw b) (h' : Spells raw b') : b = b' := by
  rw [← boolean?_eq_some_iff] at h h'
  exact Option.some.inj (h.symm.trans h')

/-! ## Switches -/

/-- The overrides whose texts stand for booleans. -/
inductive Switch where
  | redirect
  | verify
  deriving DecidableEq

namespace Switch

/-- The override of a switch. -/
def override : Switch → Override
  | redirect => .redirect
  | verify => .verify

/-- The configuration with a switch turned on or off. -/
def set (s : Switch) (b : Bool) (c : Config) : Config :=
  match s with
  | redirect => { c with redirectEnabled := b }
  | verify => { c with verifyAfterWrite := b }

theorem set?_override (s : Switch) (raw : String) (c : Config) :
    s.override.set? raw c = (Override.boolean? raw).map fun b => s.set b c := by
  cases s <;> rfl

theorem subdir_set (s : Switch) (b : Bool) (c : Config) : (s.set b c).workspaceSubdir = c.workspaceSubdir := by
  cases s <;> rfl

theorem set_inj {s : Switch} {b b' : Bool} {c : Config} : s.set b c = s.set b' c ↔ b = b' := by
  cases s <;> simp [set]

/-- Turning a switch of an accepted configuration is accepted. -/
theorem validate_set {c : Config} (h : c.Accepted) (s : Switch) (b : Bool) : (s.set b c).validate = .ok (s.set b c) := by
  rw [validate_eq_ok_iff, subdir_set]
  exact ⟨accepted_iff.1 h, rfl⟩

end Switch

/-- **A switch is turned by the texts of the grammar.** Over an accepted configuration, an override of a switch results in
that configuration with the switch turned as the word says, if its text spells a boolean, and no text spells two. For all
other texts the variable and its text are reported. -/
theorem override_switch (s : Switch) (raw : String) {base : Config} (hbase : base.Accepted) :
    (∀ b, base.override (Override.only s.override raw) = .ok (s.set b base) ↔ Spells raw b) ∧
      ¬ (Spells raw true ∧ Spells raw false) ∧
      ∀ e, base.override (Override.only s.override raw) = .error e ↔
        (∀ b, ¬ Spells raw b) ∧ e = .invalidValue s.override.key raw := by
  have hunique : ¬ (Spells raw true ∧ Spells raw false) := fun h => Bool.noConfusion (h.1.unique h.2)
  rw [Override.override_only, s.set?_override]
  cases hword : Override.boolean? raw with
  | none =>
    have hnone : ∀ b, ¬ Spells raw b := by
      intro b h
      rw [← boolean?_eq_some_iff, hword] at h
      cases h
    exact ⟨fun b => iff_of_false (fun h => nomatch h) (hnone b), hunique, fun e => by simp [hnone, eq_comm]⟩
  | some b =>
    have hb : ∀ b', Spells raw b' ↔ b = b' := by
      intro b'
      rw [← boolean?_eq_some_iff, hword, Option.some.injEq]
    simp only [Option.map_some, s.validate_set hbase b]
    refine ⟨fun b' => ?_, hunique, fun e => ?_⟩
    · rw [Except.ok.injEq, Switch.set_inj, hb]
    · exact iff_of_false (fun h => nomatch h) fun h => h.1 b ((hb b).2 rfl)

/-- An em space and a control character are white space around a word with capitals. The long s is no letter of `yes`, and
white space within a word is no white space around it. -/
theorem override_switch_of_yes :
    let base : Config := ⟨true, false, "out"⟩
    base.override (Override.only .verify "\u2003YeS\u0085") = .ok ⟨true, true, "out"⟩ ∧
      (∀ b, ¬ Spells "ye\u017f" b) ∧
      base.override (Override.only .redirect "o n") = .error (.invalidValue "CIENV_REDIRECT_MESSAGE" "o n") := by
  intro base
  have hbase : base.Accepted := accepted_iff.2 (by decide)
  refine ⟨?_, ?_, by decide +kernel⟩
  · have hyes : ("yes", true) ∈ vocabulary := by decide
    have hspells : Spells ("\u2003" ++ "YeS" ++ "\u0085") true := .word (by decide) (by decide) hyes (by decide)
    exact ((override_switch .verify _ hbase).1 true).2 hspells
  · have herror : base.override (Override.only .verify "ye\u017f") =
        .error (.invalidValue Override.verify.key "ye\u017f") := by
      decide +kernel
    exact (((override_switch .verify _ hbase).2.2 _).1 herror).1

end Config

end CiMessage
