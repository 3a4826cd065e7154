import CiMessage.Json.Reader.Containers
import Mathlib.Data.List.Basic

/-!
# What readers read

`Read` carries a proof that the rest of a text is shorter, which stands in the way of comparing what two readers read. The
view of a result is its value and the rest alone; each way of making readers from readers has its lemma about it.
-/

namespace CiMessage.Json

instance decidableEqExcept {ε α : Type} [DecidableEq ε] [DecidableEq α] : DecidableEq (Except ε α)
  | .ok a, .ok b => decidable_of_iff (a = b) (by simp)
  | .error e, .error e' => decidable_of_iff (e = e') (by simp)
  | .ok _, .error _ => isFalse nofun
  | .error _, .ok _ => isFalse nofun

variable {α β σ : Type} {cs : List Char}

@[simp] theorem ok_bind {ε : Type} (a : α) (f : α → Except ε β) : (Except.ok a >>= f) = f a := rfl

@[simp] theorem error_bind {ε : Type} (e : ε) (f : α → Except ε β) : (Except.error e >>= f) = .error e := rfl

@[simp] theorem map_eq_ok {ε : Type} {f : α → β} {x : Except ε α} {b : β} : f <$> x = .ok b ↔ ∃ a, x = .ok a ∧ f a = b := by
  cases x <;> simp

theorem bind_eq_ok {ε : Type} {f : α → Except ε β} {x : Except ε α} {b : β} :
    x >>= f = .ok b ↔ ∃ a, x = .ok a ∧ f a = .ok b := by
  cases x <;> simp

/-- The value that was read and the rest of the text. -/
def view (x : Except Error (Read α cs)) : Except Error (α × List Char) := (fun r => (r.value, r.rest)) <$> x

@[simp] theorem view_ok (r : Read α cs) : view (.ok r) = .ok (r.value, r.rest) := rfl

@[simp] theorem view_error (e : Error) : view (.error e : Except Error (Read α cs)) = .error e := rfl

namespace Reader

@[simp] theorem view_map (p : Reader α) (f : α → β) (cs : List Char) :
    view (p.map f cs) = (fun r => (f r.1, r.2)) <$> view (p cs) := by
  rw [map]
  cases p cs <;> rfl

@[simp] theorem view_bind (p : Reader α) (f : α → Reader β) (cs : List Char) :
    view (p.bind f cs) = view (p cs) >>= fun r => view (f r.1 r.2) := by
  rw [bind]
  cases p cs with
  | error e => rfl
  | ok r =>
    simp only [view_ok, ok_bind]
    cases f r.value r.rest <;> rfl

@[simp] theorem view_check (p : Reader α) (f : α → Except Error β) (cs : List Char) :
    view (p.check f cs) = view (p cs) >>= fun r => (fun b => (b, r.2)) <$> f r.1 := by
  rw [check]
  cases p cs with
  | error e => rfl
  | ok r =>
    simp only [view_ok, ok_bind]
    cases f r.value <;> rfl

@[simp] theorem view_past (c : Char) (p : Reader α) (cs : List Char) : view (p.past c cs) = view (p cs) := by
  rw [past]
  cases p cs <;> rfl

@[simp] theorem view_fail (e : Error) (cs : List Char) : view ((fail e : Reader α) cs) = .error e := rfl

@[simp] theorem view_afterBlanks (p : Reader α) (cs : List Char) :
    view (p.afterBlanks cs) = view (p (skipBlanks cs)) := by
  rw [afterBlanks]
  cases p (skipBlanks cs) <;> rfl

/-- A whole text is read when nothing but white space is left of it. -/
theorem parse_eq (p : Reader α) (text : String) :
    p.parse text = view (p text.toList) >>= fun r =>
      if (skipBlanks r.2).isEmpty then .ok r.1 else .error .trailingCharacters := by
  rw [parse]
  cases p text.toList <;> rfl

theorem parse_congr {p q : Reader α} {text : String} (h : view (p text.toList) = view (q text.toList)) :
    p.parse text = q.parse text := by
  rw [parse_eq, h, ← parse_eq]

theorem parse_map (p : Reader α) (f : α → β) (text : String) : (p.map f).parse text = f <$> p.parse text := by
  rw [parse_eq, view_map, parse_eq]
  cases view (p text.toList) with
  | error e => rfl
  | ok r =>
    simp only [Except.map_ok, ok_bind]
    split <;> rfl

/-- What an array with places is made into is converted like any value that is read. -/
theorem view_placed_map (steps : List (σ → Reader σ)) (s : σ) (f : σ → α) (cs : List Char) :
    view (placed steps s (fun s _ => .ok (f s)) cs) =
      (fun r => (f r.1, r.2)) <$> view (placed steps s (fun s _ => .ok s) cs) := by
  unfold placed
  cases places true 0 s cs steps with
  | error e => rfl
  | ok p =>
    simp only
    cases closeArray p.rest <;> rfl

end Reader

end CiMessage.Json
