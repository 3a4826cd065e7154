import CiMessage.Proofs.Reading
import CiMessage.Proofs.Spelling.Numerals

/-!
# Readers of spellings

A reader reads a value as some result (`Reads`) when it does so wherever the value may stand: after any white space, and
before any text that cannot be part of the value. The ways of making readers from readers keep that.
-/

namespace CiMessage.Json

variable {α β : Type} {p : Reader α} {v : Spelling} {x : Except Error α}

/-- The reader reads the value, with the white space before it, as the result says. -/
def Reads (p : Reader α) (v : Spelling) (x : Except Error α) : Prop :=
  ∀ (b : Blanks) {rest : List Char}, EndsNumeral rest →
    view (p (b.chars ++ (v.chars ++ rest))) = (fun a => (a, rest)) <$> x

/-- **A whole text is read as the value in it.** -/
theorem Reads.parse {doc : Document} (h : Reads p doc.value x) : p.parse doc.text = x := by
  have hafter : skipBlanks doc.after.chars = [] := by
    have hskip := doc.after.skip []
    rwa [List.append_nil] at hskip
  have hend : EndsNumeral doc.after.chars := by
    have hnil := EndsNumeral.nil.after_blanks doc.after
    rwa [List.append_nil] at hnil
  rw [Reader.parse_eq, Document.text, String.toList_ofList, h doc.before hend]
  cases x with
  | error e => rfl
  | ok a => simp [hafter]

theorem Reads.map (h : Reads p v x) (f : α → β) : Reads (p.map f) v (f <$> x) := by
  intro b rest hrest
  rw [Reader.view_map, h b hrest]
  cases x <;> rfl

theorem Reads.check (h : Reads p v x) (f : α → Except Error β) : Reads (p.check f) v (x >>= f) := by
  intro b rest hrest
  rw [Reader.view_check, h b hrest]
  cases x <;> rfl

/-- The reader reads the value, with the colon before it, as the result says. -/
def ReadsMember (p : Reader α) (v : Spelling) (x : Except Error α) : Prop :=
  ∀ (a b : Blanks) {rest : List Char}, EndsNumeral rest →
    view (p (a.chars ++ ':' :: (b.chars ++ (v.chars ++ rest)))) = (fun a => (a, rest)) <$> x

theorem Reads.afterColon (h : Reads p v x) : ReadsMember (Reader.afterColon p) v x := by
  intro a b rest hrest
  rw [Reader.afterColon, Reader.view_afterBlanks, a.skip, skipBlanks_of_not_blank rfl]
  exact (Reader.view_past ..).trans (h b hrest)

theorem ReadsMember.map (h : ReadsMember p v x) (f : α → β) : ReadsMember (p.map f) v (f <$> x) := by
  intro a b rest hrest
  rw [Reader.view_map, h a b hrest]
  cases x <;> rfl

theorem ReadsMember.check (h : ReadsMember p v x) (f : α → Except Error β) : ReadsMember (p.check f) v (x >>= f) := by
  intro a b rest hrest
  rw [Reader.view_check, h a b hrest]
  cases x <;> rfl

theorem readsMember_fail (e : Error) (v : Spelling) : ReadsMember (Reader.fail e : Reader α) v (.error e) := by
  intro a b rest hrest
  rw [Reader.view_fail]
  rfl

end CiMessage.Json
