import CiMessage.Text.Blank
import Mathlib.Data.List.DropRight

/-!
# Texts without the white space at their ends

A text is white space, then a text that neither begins nor ends with it, and then white space again. `Text.Strips` says
this of the text in the middle, without a way to find it. There is always exactly one, and `Text.trim` finds it
(`Text.strips_iff`).
-/

namespace CiMessage.Text

/-- The text is white space, or empty. -/
def AllBlank (s : String) : Prop := ∀ c ∈ s.toList, isBlank c = true

instance (s : String) : Decidable (AllBlank s) :=
  List.decidableBAll (isBlank · = true) s.toList

/-- No white space is at the ends of the text. -/
structure Bare (s : String) : Prop where
  start : ∀ c ∈ s.toList.head?, isBlank c = false
  finish : ∀ c ∈ s.toList.getLast?, isBlank c = false

/-- The second text is the first one without the white space at its ends. -/
structure Strips (s t : String) : Prop where
  around : ∃ lead trail, AllBlank lead ∧ AllBlank trail ∧ s = lead ++ t ++ trail
  bare : Bare t

variable {cs lead trail : List Char}

theorem trimChars_eq (cs : List Char) : trimChars cs = (cs.dropWhile isBlank).rdropWhile isBlank := rfl

/-! ## What is around -/

/-- White space before a list of characters is dropped. -/
theorem trimChars_lead (h : ∀ c ∈ lead, isBlank c = true) : trimChars (lead ++ cs) = trimChars cs := by
  rw [trimChars_eq, trimChars_eq, List.dropWhile_append_of_pos h]

/-- White space after a list of characters is dropped, also when nothing else is there. -/
theorem trimChars_trail (h : ∀ c ∈ trail, isBlank c = true) : trimChars (cs ++ trail) = trimChars cs := by
  have hdrop : ∀ ds : List Char, (ds ++ trail).rdropWhile isBlank = ds.rdropWhile isBlank := by
    intro ds
    rw [List.rdropWhile, List.reverse_append, List.dropWhile_append_of_pos, ← List.rdropWhile]
    intro c hc
    exact h c (List.mem_reverse.1 hc)
  rw [trimChars_eq, trimChars_eq, List.dropWhile_append]
  split
  · next hempty =>
    -- nothing is left of the characters, and so nothing of what follows them
    rw [List.isEmpty_iff.1 hempty]
    have htrail : trail.dropWhile isBlank = [] := List.dropWhile_eq_nil_iff.2 h
    rw [htrail]
  · exact hdrop _

/-- Characters with no white space at their ends stay. -/
theorem trimChars_of_bare (hstart : ∀ c ∈ cs.head?, isBlank c = false) (hfinish : ∀ c ∈ cs.getLast?, isBlank c = false) :
    trimChars cs = cs := by
  have hdrop : cs.dropWhile isBlank = cs := by
    cases cs with
    | nil => rfl
    | cons c rest => exact List.dropWhile_cons_of_neg (by simp [hstart c rfl])
  rw [trimChars_eq, hdrop, List.rdropWhile_eq_self_iff]
  intro hne
  rw [Bool.not_eq_true]
  exact hfinish _ (List.getLast?_eq_getLast_of_ne_nil hne)

/-! ## What is left -/

/-- White space is dropped before the characters that are left, and after them. -/
theorem exists_trimChars (cs : List Char) : ∃ lead trail, (∀ c ∈ lead, isBlank c = true) ∧
    (∀ c ∈ trail, isBlank c = true) ∧ cs = lead ++ trimChars cs ++ trail := by
  refine ⟨cs.takeWhile isBlank, (cs.dropWhile isBlank).rtakeWhile isBlank, fun c hc => List.mem_takeWhile_imp hc,
    fun c hc => List.mem_rtakeWhile_imp hc, ?_⟩
  rw [trimChars_eq, List.append_assoc, List.rdropWhile_append_rtakeWhile, List.takeWhile_append_dropWhile]

/-- The characters that are left do not begin with white space. -/
theorem head?_trimChars {c : Char} (h : c ∈ (trimChars cs).head?) : isBlank c = false := by
  obtain ⟨rest, hrest⟩ := List.rdropWhile_prefix isBlank (cs.dropWhile isBlank)
  have hhead : (cs.dropWhile isBlank).head? = some c := by
    rw [← hrest, List.head?_append, ← trimChars_eq, h]
    rfl
  have hnot := List.head?_dropWhile_not isBlank cs
  rwa [hhead] at hnot

/-- The characters that are left do not end with white space. -/
theorem getLast?_trimChars {c : Char} (h : c ∈ (trimChars cs).getLast?) : isBlank c = false := by
  have hne : trimChars cs ≠ [] := by
    intro hnil
    rw [hnil] at h
    cases h
  rw [List.getLast?_eq_some_getLast hne] at h
  cases h
  exact Bool.eq_false_iff.2 (List.rdropWhile_last_not isBlank (cs.dropWhile isBlank) hne)

/-! ## Texts -/

/-- **A text without the white space at its ends** is what trimming leaves, and there is no other one. -/
theorem strips_iff {s t : String} : Strips s t ↔ t = trim s := by
  constructor
  · rintro ⟨⟨lead, trail, hlead, htrail, rfl⟩, hbare⟩
    rw [trim, String.toList_append, String.toList_append, trimChars_trail htrail, trimChars_lead hlead,
      trimChars_of_bare hbare.start hbare.finish, String.ofList_toList]
  · rintro rfl
    obtain ⟨lead, trail, hlead, htrail, hs⟩ := exists_trimChars s.toList
    refine ⟨⟨.ofList lead, .ofList trail, ?_, ?_, ?_⟩, ?_, ?_⟩
    · rwa [AllBlank, String.toList_ofList]
    · rwa [AllBlank, String.toList_ofList]
    · rw [trim, ← String.ofList_append, ← String.ofList_append, ← hs, String.ofList_toList]
    · rw [trim, String.toList_ofList]
      exact fun c hc => head?_trimChars hc
    · rw [trim, String.toList_ofList]
      exact fun c hc => getLast?_trimChars hc

end CiMessage.Text
