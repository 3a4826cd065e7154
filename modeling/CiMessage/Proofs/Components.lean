import CiMessage.Proofs.MemoryStore
import CiMessage.Proofs.Utf8

/-!
# Entries of directories, by components

The components of a path are its parts between slashes, without those that name no place of their own. Joining a name to a
path adds what the name stands for, and nothing else, when there is no slash in it (`Path.components_join`).

A plain name stands for one component, itself. So an entry of a directory has the components of the directory and its own
name after them (`Workspace.components_child`).
-/

namespace CiMessage

namespace Path

/-! ## Parts between slashes -/

theorem split_ne_nil (bytes : List UInt8) : split bytes ≠ [] := by
  cases bytes with
  | nil => exact List.cons_ne_nil _ _
  | cons b rest =>
    unfold split
    split
    · exact List.cons_ne_nil _ _
    · split <;> exact List.cons_ne_nil _ _

/-- **A slash separates** the parts before it from those after it. -/
theorem split_append_slash (before after : List UInt8) :
    split (before ++ slash :: after) = split before ++ split after := by
  induction before with
  | nil => rfl
  | cons b rest ih =>
    rw [List.cons_append, split, ih, split]
    by_cases hb : b = slash
    · rw [if_pos hb, if_pos hb, List.cons_append]
    · -- the byte goes into the first part, which is one of those before the slash
      rw [if_neg hb, if_neg hb]
      cases hs : split rest with
      | nil => exact absurd hs (split_ne_nil rest)
      | cons part parts => rfl

theorem split_of_not_mem {name : List UInt8} (h : slash ∉ name) : split name = [name] := by
  induction name with
  | nil => rfl
  | cons b rest ih =>
    rw [List.mem_cons, not_or] at h
    rw [split, if_neg (Ne.symm h.1), ih h.2]

/-! ## Components -/

/-- What the first part of a path stands for: the root before a slash, and a `.` only here. -/
def leading (p : Path) (first : List UInt8) : List Component :=
  if p.bytes.head? = some slash then [.root] else if first = [dot] then [.current] else (component? first).toList

/-- The components of a path with these parts. -/
theorem components_of_split {p : Path} {first : List UInt8} {rest : List (List UInt8)}
    (h : split p.bytes = first :: rest) : p.components = p.leading first ++ rest.filterMap component? := by
  rw [components, h]
  rfl

/-- **A name without a slash** adds to a path what it stands for. -/
theorem components_join {p : Path} {name : List UInt8} (hp : p.isEmpty = false) (hn : slash ∉ name) :
    (p.join name).components = p.components ++ (component? name).toList := by
  obtain ⟨bytes⟩ := p
  have hlast : [name].filterMap component? = (component? name).toList := by
    cases h : component? name <;> simp [h]
  unfold join
  split
  · rename_i h
    -- the slash is there already: it ends the path, and the empty part after it stands for nothing
    have hend : bytes.getLast? = some slash := by simpa [hp] using h
    obtain ⟨before, rfl⟩ := List.getLast?_eq_some_iff.1 hend
    obtain ⟨first, rest, hs⟩ := List.exists_cons_of_ne_nil (split_ne_nil before)
    have hjoined : split ((before ++ [slash]) ++ name) = first :: (rest ++ [name]) := by
      rw [List.append_assoc, List.singleton_append, split_append_slash, hs, split_of_not_mem hn, List.cons_append]
    have hdir : split (before ++ [slash]) = first :: (rest ++ [[]]) := by
      rw [split_append_slash, hs, List.cons_append]
      rfl
    have hleading : leading ⟨(before ++ [slash]) ++ name⟩ first = leading ⟨before ++ [slash]⟩ first := by
      cases before <;> rfl
    rw [components_of_split hjoined, components_of_split hdir, hleading, List.filterMap_append, List.filterMap_append, hlast]
    simp [component?]
  · -- a slash comes between the path and the name
    obtain ⟨first, rest, hs⟩ := List.exists_cons_of_ne_nil (split_ne_nil bytes)
    have hjoined : split (bytes ++ slash :: name) = first :: (rest ++ [name]) := by
      rw [split_append_slash, hs, split_of_not_mem hn, List.cons_append]
    have hleading : leading ⟨bytes ++ slash :: name⟩ first = leading ⟨bytes⟩ first := by
      cases bytes with
      | nil => cases hp
      | cons b tail => rfl
    rw [components_of_split hjoined, components_of_split hs, hleading, List.filterMap_append, hlast, List.append_assoc]

/-- A path is that of a plain name in a directory: one component more, which is the name. -/
structure IsEntry (target dir : Path) (name : String) : Prop where
  place : dir.isEmpty = false
  plain : Workspace.isPlainName name = true
  joined : target = dir.join (Utf8.encode name)
  components : target.components = dir.components ++ [.normal (Utf8.encode name)]

end Path

/-! ## Plain names -/

namespace Workspace

/-- A name is plain when it is not empty, does not stand for a directory that is there already, and has no separator or
NUL in it. -/
theorem isPlainName_iff {name : String} : isPlainName name = true ↔ name ≠ "" ∧ name ≠ "." ∧ name ≠ ".." ∧
    '/' ∉ name.toList ∧ '\\' ∉ name.toList ∧ '\x00' ∉ name.toList := by
  have hchars : (name.toList.any fun c => c == '/' || c == '\\' || c == '\x00') = false ↔
      '/' ∉ name.toList ∧ '\\' ∉ name.toList ∧ '\x00' ∉ name.toList := by
    rw [List.any_eq_false]
    constructor
    · intro h
      exact ⟨fun hc => h _ hc rfl, fun hc => h _ hc rfl, fun hc => h _ hc rfl⟩
    · rintro ⟨hslash, hback, hnul⟩ c hc h
      simp only [Bool.or_eq_true, beq_iff_eq] at h
      rcases h with (rfl | rfl) | rfl
      · exact hslash hc
      · exact hback hc
      · exact hnul hc
  rw [isPlainName, Bool.and_eq_true, Bool.and_eq_true, Bool.and_eq_true, Bool.not_eq_true', hchars, bne_iff_ne,
    bne_iff_ne, bne_iff_ne, and_assoc, and_assoc]

/-- A name that is not plain is empty, stands for a directory that is there already, or has a separator or NUL in it. -/
theorem isPlainName_eq_false_iff {name : String} : isPlainName name = false ↔ name = "" ∨ name = "." ∨ name = ".." ∨
    '/' ∈ name.toList ∨ '\\' ∈ name.toList ∨ '\x00' ∈ name.toList := by
  rw [← Bool.not_eq_true, isPlainName_iff]
  simp only [Decidable.not_and_iff_not_or_not, Decidable.not_not, ne_eq]

/-- A plain name stands for one component, itself. -/
theorem component?_encode {name : String} (h : isPlainName name = true) :
    Path.component? (Utf8.encode name) = some (.normal (Utf8.encode name)) := by
  obtain ⟨hempty, hdot, hdots, -⟩ := isPlainName_iff.1 h
  have hone : Utf8.encode name ≠ [] := fun he => hempty (Utf8.encode_inj.1 he)
  have htwo : Utf8.encode name ≠ [Path.dot] := fun he => hdot (Utf8.encode_inj.1 he)
  have hthree : Utf8.encode name ≠ [Path.dot, Path.dot] := fun he => hdots (Utf8.encode_inj.1 he)
  rw [Path.component?, if_neg (not_or.2 ⟨hone, htwo⟩), if_neg hthree]

theorem slash_not_mem_encode {name : String} (h : isPlainName name = true) : Path.slash ∉ Utf8.encode name := by
  obtain ⟨-, -, -, hslash, -⟩ := isPlainName_iff.1 h
  rw [Utf8.mem_encode_iff (by decide)]
  exact hslash

/-! ## Entries -/

/-- **An entry has the components of its directory, and then its name.** -/
theorem components_child {dir target : Path} {name : String} (h : child dir name = .ok target) :
    target.components = dir.components ++ [.normal (Utf8.encode name)] := by
  obtain ⟨hd, hn, rfl⟩ := child_eq_ok_iff.1 h
  rw [Path.components_join hd (slash_not_mem_encode hn), component?_encode hn]
  rfl

theorem child_eq_ok_iff_isEntry {dir target : Path} {name : String} :
    child dir name = .ok target ↔ target.IsEntry dir name := by
  constructor
  · intro h
    obtain ⟨hplace, hplain, hjoined⟩ := child_eq_ok_iff.1 h
    exact ⟨hplace, hplain, hjoined, components_child h⟩
  · intro h
    exact child_eq_ok_iff.2 ⟨h.place, h.plain, h.joined⟩

end Workspace

end CiMessage
