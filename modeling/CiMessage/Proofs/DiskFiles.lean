import CiMessage.Disk.Operations

/-!
# What is written to a disk is read back

A walk that is allowed to make a file ends at a spot: a free name, or something that is there. `find_of_created` says that
a walk that only follows links ends at the same spot on every disk that keeps the directories and links, and finds what is
there by then. A write changes nothing but the spot where its own walk ended (`write_cases`), so that afterwards the file
is read back under the path it was written under, unless the path leads to a device that keeps nothing (`read_write`).
-/

namespace CiMessage.Disk

/-! ## Spots -/

/-- The location of a spot. -/
def Spot.place : Spot → Location
  | taken place _ => place
  | free dir name => dir ++ [name]

/-- What is at a spot. -/
def Spot.node? : Spot → Option Node
  | taken _ node => some node
  | free .. => none

/-- May a walk go on from here? -/
def Node.IsPassed : Node → Prop
  | .directory | .link _ => True
  | _ => False

/-- **Lookup after a node was put.** -/
theorem node?_put {place : Location} (hp : place ≠ []) (d : Disk) (node : Node) (x : Location) :
    (d.put place node).node? x = if x = place then some node else d.node? x := by
  unfold node? put
  by_cases hx : x = []
  · simp [hx, hp.symm]
  · simp [hx]

/-! ## One name of a path -/

section Names

variable {d : Disk} {last : Last} {links : Nat} {dir : Location} {part : Name} {rest : List Name} {slash : Bool}

/-- A walk goes into a directory, unless it is to make a file there. -/
theorem walk_directory (hdot : part ≠ [Path.dot]) (hdots : part ≠ [Path.dot, Path.dot])
    (hslash : ¬ (last = .created ∧ rest = [] ∧ slash = true)) (hlen : ¬ part.length > nameLimit)
    (hd : d.node? (dir ++ [part]) = some .directory) :
    d.walk last links dir (part :: rest) slash = d.walk last links (dir ++ [part]) rest slash := by
  rw [walk, if_neg hdot, if_neg hdots, if_neg hslash, if_neg hlen, hd]

/-- A walk ends at a last name that is free. -/
theorem walk_free (hdot : part ≠ [Path.dot]) (hdots : part ≠ [Path.dot, Path.dot]) (hlen : ¬ part.length > nameLimit)
    (hd : d.node? (dir ++ [part]) = none) : d.walk last links dir [part] false = .ok (.free dir part) := by
  rw [walk, if_neg hdot, if_neg hdots, if_neg (by simp), if_neg hlen, hd]
  exact if_pos rfl

/-- A walk does not get past a name that is free. -/
theorem walk_missing (hdot : part ≠ [Path.dot]) (hdots : part ≠ [Path.dot, Path.dot]) (hrest : rest ≠ [])
    (hlen : ¬ part.length > nameLimit) (hd : d.node? (dir ++ [part]) = none) :
    d.walk last links dir (part :: rest) slash = .error .noEntry := by
  rw [walk, if_neg hdot, if_neg hdots, if_neg (fun h => hrest h.2.1), if_neg hlen, hd]
  exact if_neg hrest

/-- A walk follows a link, if it may follow one more. -/
theorem walk_link {target : Path} (hdot : part ≠ [Path.dot]) (hdots : part ≠ [Path.dot, Path.dot])
    (hlen : ¬ part.length > nameLimit) (hd : d.node? (dir ++ [part]) = some (.link target)) :
    d.walk .followed (links + 1) dir (part :: rest) slash =
      d.walk .followed links (if isAbsolute target then [] else dir) (names target ++ rest)
        (slash || rest.isEmpty && endsInSlash target) := by
  rw [walk, if_neg hdot, if_neg hdots, if_neg (by simp), if_neg hlen, hd]
  exact if_neg (by simp)

/-- A walk ends at the last name, if nothing is there that it passes. -/
theorem walk_last {node : Node} (hdot : part ≠ [Path.dot]) (hdots : part ≠ [Path.dot, Path.dot])
    (hlen : ¬ part.length > nameLimit) (hd : d.node? (dir ++ [part]) = some node) (hp : ¬ node.IsPassed) :
    d.walk .followed links dir [part] false = .ok (.taken (dir ++ [part]) node) := by
  rw [walk, if_neg hdot, if_neg hdots, if_neg (by simp), if_neg hlen, hd]
  cases node with
  | directory => exact absurd trivial hp
  | link => exact absurd trivial hp
  | file => rfl
  | sink => rfl
  | full => rfl

end Names

/-! ## Walks -/

section Walks

variable {d d' : Disk} {links : Nat} {dir : Location} {parts : List Name} {slash : Bool} {spot : Spot} {node : Node}
  {p : Path}

/-- A walk that ends elsewhere than in a directory ends where the disk has what it found. -/
theorem node?_of_walk (h : d.walk .created links dir parts slash = .ok spot) (hs : spot.node? ≠ some .directory) :
    spot.place ≠ [] ∧ d.node? spot.place = spot.node? := by
  fun_induction d.walk .created links dir parts slash with
  | case1 =>
    cases h
    exact absurd rfl hs
  | case2 links dir slash rest ih => exact ih h
  | case3 links dir slash rest hdot ih => exact ih h
  | case6 links dir slash part hdot hdots hlen hnone hslash =>
    cases h
    exact ⟨by simp [Spot.place], hnone⟩
  | case8 links dir slash part rest hdot hdots hslash hlen hdir ih => exact ih h
  | case9 links dir slash part rest hdot hdots hslash hlen target hlink hself => cases hself.1
  | case11 dir slash part rest hdot hdots hslash hlen target hlink hself links ih =>
    simp only [dite_eq_ite] at ih
    exact ih h
  | case12 links dir slash part rest hdot hdots hslash hlen old hdir hlink hold hend =>
    cases h
    exact ⟨by simp [Spot.place], hold⟩
  | case4 | case5 | case7 | case10 | case13 => cases h

/-- **A walk on a disk that keeps directories and links** goes the same way, and finds what is at its end by then. -/
theorem walk_of_created (hkeep : ∀ x n, d.node? x = some n → n.IsPassed → d'.node? x = some n)
    (h : d.walk .created links dir parts slash = .ok spot) (hs : spot.node? ≠ some .directory)
    (hn : d'.node? spot.place = some node) (hp : ¬ node.IsPassed) :
    d'.walk .followed links dir parts slash = .ok (.taken spot.place node) := by
  fun_induction d.walk .created links dir parts slash with
  | case1 =>
    cases h
    exact absurd rfl hs
  | case2 links dir slash rest ih =>
    rw [walk, if_pos rfl]
    exact ih h
  | case3 links dir slash rest hdot ih =>
    rw [walk, if_neg hdot, if_pos rfl]
    exact ih h
  | case6 links dir slash part hdot hdots hlen hnone hslash =>
    -- a file may be made here, so that no slash comes after the name
    cases h
    have hlast : slash = false := by simpa using hslash
    rw [hlast]
    exact walk_last hdot hdots hlen hn hp
  | case8 links dir slash part rest hdot hdots hslash hlen hdir ih =>
    rw [walk_directory hdot hdots (by simp) hlen (hkeep _ _ hdir trivial)]
    exact ih h
  | case9 links dir slash part rest hdot hdots hslash hlen target hlink hself => cases hself.1
  | case11 dir slash part rest hdot hdots hslash hlen target hlink hself links ih =>
    rw [walk_link hdot hdots hlen (hkeep _ _ hlink trivial)]
    simp only [dite_eq_ite] at ih
    exact ih h
  | case12 links dir slash part rest hdot hdots hslash hlen old hdir hlink hold hend =>
    cases h
    rw [hend.1, hend.2]
    exact walk_last hdot hdots hlen hn hp
  | case4 | case5 | case7 | case10 | case13 => cases h

/-- A path that can be asked for leads along its names. -/
theorem find_eq_walk {last : Last} (hnul : p.bytes.contains 0 = false) (hempty : p.isEmpty = false)
    (hlen : p.bytes.length ≤ pathLimit) :
    d.find last p =
      d.walk last linkLimit (if isAbsolute p then [] else d.cwd) (names p) (last != .itself && endsInSlash p) := by
  rw [find, hnul, hempty, if_neg Bool.false_ne_true, if_neg Bool.false_ne_true, if_neg (Nat.not_lt.2 hlen)]

/-- A path leads to a spot when it can be asked for and the walk along its names ends there. -/
theorem find_eq_ok_iff {last : Last} : d.find last p = .ok spot ↔
    p.bytes.contains 0 = false ∧ p.isEmpty = false ∧ p.bytes.length ≤ pathLimit ∧
      d.walk last linkLimit (if isAbsolute p then [] else d.cwd) (names p) (last != .itself && endsInSlash p) =
        .ok spot := by
  unfold find
  cases p.bytes.contains 0
  · cases p.isEmpty
    · by_cases hl : p.bytes.length > pathLimit
      · simp [hl, Nat.not_le.2 hl]
      · simp [hl, Nat.not_lt.1 hl]
    · simp
  · simp

theorem node?_of_find (h : d.find .created p = .ok spot) (hs : spot.node? ≠ some .directory) :
    spot.place ≠ [] ∧ d.node? spot.place = spot.node? :=
  node?_of_walk (find_eq_ok_iff.1 h).2.2.2 hs

/-- **Finding again** on a disk that keeps directories and links. -/
theorem find_of_created (hkeep : ∀ x n, d.node? x = some n → n.IsPassed → d'.node? x = some n) (hcwd : d'.cwd = d.cwd)
    (h : d.find .created p = .ok spot) (hs : spot.node? ≠ some .directory) (hn : d'.node? spot.place = some node)
    (hp : ¬ node.IsPassed) : d'.find .followed p = .ok (.taken spot.place node) := by
  obtain ⟨hnul, hempty, hlen, hwalk⟩ := find_eq_ok_iff.1 h
  rw [← hcwd] at hwalk
  exact find_eq_ok_iff.2 ⟨hnul, hempty, hlen, walk_of_created hkeep hwalk hs hn hp⟩

/-- What may be written to is found again on the same disk. -/
theorem find_followed {place : Location} (h : d.find .created p = .ok (.taken place node)) (hp : ¬ node.IsPassed) :
    d.find .followed p = .ok (.taken place node) := by
  have hs : (Spot.taken place node).node? ≠ some .directory := by
    rintro ⟨⟩
    exact hp trivial
  exact find_of_created (fun _ _ hn _ => hn) rfl h hs (node?_of_find h hs).2 hp

end Walks

/-! ## Writing and reading -/

section Files

variable {d d' : Disk} {p : Path} {content : ByteArray} {dir : Location} {name : Name}

/-- A directory is made at once at a free name. -/
theorem makeDirectories_of_free (h : d.find .itself p = .ok (.free dir name)) :
    d.makeDirectories p = (d.put (dir ++ [name]) .directory, none) := by
  have hmake : d.makeDirectory p = .ok (d.put (dir ++ [name]) .directory) := by rw [makeDirectory, h]
  unfold makeDirectories
  cases p.components.reverse.tail with
  | nil => rw [makeWithin, ensureDirectory, hmake]
  | cons c outer => rw [makeWithin, hmake]

theorem write_of_free (h : d.find .created p = .ok (.free dir name)) :
    d.write p content = .ok (d.put (dir ++ [name]) (.file content)) := by
  rw [write, h]

/-- The path leads to a device that keeps nothing. -/
def LeadsToSink (d : Disk) (p : Path) : Prop := ∃ place, d.find .followed p = .ok (.taken place .sink)

/-- **A write that succeeds** puts a file at the spot to which the path leads, or it leaves the disk as it was: the path
leads to a device that keeps nothing, or nothing was written to one that takes nothing. -/
theorem write_cases (h : d.write p content = .ok d') :
    (∃ spot, d.find .created p = .ok spot ∧ (∀ node ∈ spot.node?, ¬ node.IsPassed) ∧
      d' = d.put spot.place (.file content)) ∨
    d' = d ∧ ∃ place, d.find .created p = .ok (.taken place .sink) ∨
      d.find .created p = .ok (.taken place .full) ∧ content = .empty := by
  unfold write at h
  split at h
  case h_2 dir name hf =>
    cases h
    exact .inl ⟨_, hf, by simp [Spot.node?], rfl⟩
  case h_3 place old hf =>
    cases h
    exact .inl ⟨_, hf, by simp [Spot.node?, Node.IsPassed], rfl⟩
  case h_4 place hf =>
    cases h
    exact .inr ⟨rfl, place, .inl hf⟩
  case h_5 place hf =>
    split at h
    · next he =>
      cases h
      exact .inr ⟨rfl, place, .inr ⟨hf, by simpa [ByteArray.isEmpty] using he⟩⟩
    · cases h
  all_goals cases h

/-- **What is written is read back** under the same path, unless that leads to a device that keeps nothing. -/
theorem read_write (h : d.write p content = .ok d') : d'.read p = .ok content ∨ d'.LeadsToSink p := by
  rcases write_cases h with ⟨spot, hf, hnode, rfl⟩ | ⟨rfl, place, hf | ⟨hf, rfl⟩⟩
  · have hs : spot.node? ≠ some .directory := fun he => hnode _ he trivial
    obtain ⟨hplace, hold⟩ := node?_of_find hf hs
    -- what the walk passes is elsewhere than at its end
    have hkeep : ∀ x n, d.node? x = some n → n.IsPassed → (d.put spot.place (.file content)).node? x = some n := by
      intro x n hx hn
      have hne : x ≠ spot.place := by
        rintro rfl
        exact hnode n (hold ▸ hx) hn
      rw [node?_put hplace, if_neg hne, hx]
    have hnew : (d.put spot.place (.file content)).node? spot.place = some (.file content) := by
      rw [node?_put hplace, if_pos rfl]
    left
    rw [read, find_of_created hkeep rfl hf hs hnew (fun h => h)]
  · exact .inr ⟨place, find_followed hf fun h => h⟩
  · left
    rw [read, find_followed hf fun h => h]

end Files

end CiMessage.Disk
