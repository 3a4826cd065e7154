import CiMessage.Proofs.Spelling.Scalars

/-!
# Arrays and objects are read entry by entry

The reader of an array or object threads a state through its entries. When each entry is read as a function of the state
says, the whole is read as the fold of that function over the entries (`view_items`, `view_members`; `reads_array` and
`reads_object` say so of a whole value). Values of any type are read so, up to the depth that is allowed (`reads_value`).
-/

namespace CiMessage.Json

variable {σ : Type} {rest cs : List Char} {c : Char}

namespace Reader

/-! ## Items -/

theorem view_moreItems (step : σ → Reader σ) (s : σ) (cs : List Char) :
    view (moreItems step s cs) =
      match skipBlanks cs with
      | [] => .error .endInList
      | ']' :: rest => .ok (s, rest)
      | ',' :: rest =>
        match skipBlanks rest with
        | [] => .error .endInValue
        | ']' :: _ => .error .trailingComma
        | _ :: _ => view (step s rest) >>= fun r => view (moreItems step r.1 r.2)
      | _ :: _ => .error .expectedListSeparator := by
  rw [moreItems.eq_def]
  split
  · next hb => simp only [hb, view_error]
  · next hb => simp only [hb, view_ok]
  · next rest hb =>
    simp only [hb]
    generalize skipBlanks rest = next
    split
    · rfl
    · rfl
    · cases step s rest with
      | error e => simp only [view_error, error_bind]
      | ok r =>
        simp only [view_ok, ok_bind]
        cases moreItems step r.value r.rest <;> rfl
  · next hb => simp only [hb, view_error]

theorem view_moreItems_close (step : σ → Reader σ) (s : σ) (b : Blanks) (rest : List Char) :
    view (moreItems step s (b.chars ++ ']' :: rest)) = .ok (s, rest) := by
  rw [view_moreItems, b.skip]
  rfl

theorem view_moreItems_comma (step : σ → Reader σ) (s : σ) (b : Blanks) (items : Items) (rest : List Char) :
    view (moreItems step s (b.chars ++ ',' :: (items.chars ++ rest))) =
      view (step s (items.chars ++ rest)) >>= fun r => view (moreItems step r.1 r.2) := by
  obtain ⟨c, t, hc, -, hclose⟩ := items.exists_flush_eq_cons
  have hnext := items.skip rest
  rw [hc, List.cons_append] at hnext
  rw [view_moreItems, b.skip, skipBlanks_of_not_blank rfl]
  simp only [hnext]

theorem view_step_moreItems {step : σ → Reader σ} {next : σ → Spelling → Except Error σ} (items : Items)
    (hstep : ∀ v ∈ items.toList, ∀ s, Reads (step s) v (next s v)) (s : σ) (rest : List Char) :
    (view (step s (items.chars ++ ']' :: rest)) >>= fun r => view (moreItems step r.1 r.2)) =
      (fun s' => (s', rest)) <$> items.toList.foldlM next s :=
  match items with
  | .one b v a => by
    have hend := (EndsNumeral.cons (.inr (.inl rfl)) rest).after_blanks a
    rw [Items.one_append, hstep v List.mem_cons_self s b hend]
    cases hn : next s v with
    | error e => simp [Items.toList, hn]
    | ok s' => simp [Items.toList, hn, view_moreItems_close]
  | .cons b v a more => by
    have hend := (EndsNumeral.cons (.inl rfl) (more.chars ++ ']' :: rest)).after_blanks a
    have ih := view_step_moreItems more fun v hv => hstep v (List.mem_cons_of_mem _ hv)
    rw [Items.cons_append, hstep v List.mem_cons_self s b hend, Items.toList, List.foldlM_cons]
    cases hn : next s v with
    | error e => rfl
    | ok s' => simp [view_moreItems_comma, ih]

/-- **The items of an array are read one by one,** and its closing bracket after them. -/
theorem view_items {step : σ → Reader σ} (next : σ → Spelling → Except Error σ) {items : Items}
    (hstep : ∀ v ∈ items.toList, ∀ s, Reads (step s) v (next s v)) (s : σ) (rest : List Char) :
    view (Reader.items step s (items.chars ++ ']' :: rest)) =
      (fun s' => (s', rest)) <$> items.toList.foldlM next s := by
  obtain ⟨c, t, hc, hblank, hclose⟩ := items.exists_flush_eq_cons
  have hflush := view_step_moreItems items.flush (by rwa [items.toList_flush]) s rest
  have hbind := view_bind (step s) (fun s => moreItems step s) (items.flush.chars ++ ']' :: rest)
  rw [items.toList_flush] at hflush
  rw [hflush] at hbind
  rw [← hbind, Reader.items, view_afterBlanks, items.skip]
  generalize hds : items.flush.chars ++ ']' :: rest = ds
  rw [hc, List.cons_append] at hds
  split
  · cases hds
  · cases hds; exact absurd rfl hclose
  · rfl

theorem view_items_empty (step : σ → Reader σ) (s : σ) (b : Blanks) (rest : List Char) :
    view (Reader.items step s (b.chars ++ ']' :: rest)) = .ok (s, rest) := by
  rw [Reader.items, view_afterBlanks, b.skip, skipBlanks_of_not_blank rfl]
  rfl

/-! ## Members -/

theorem view_moreMembers (step : σ → String → Reader σ) (s : σ) (cs : List Char) :
    view (moreMembers step s cs) =
      match skipBlanks cs with
      | [] => .error .endInObject
      | '\x7d' :: rest => .ok (s, rest)
      | ',' :: rest =>
        match skipBlanks rest with
        | [] => .error .endInValue
        | '"' :: rest' => view (member step s rest') >>= fun r => view (moreMembers step r.1 r.2)
        | '\x7d' :: _ => .error .trailingComma
        | _ :: _ => .error .keyNotString
      | _ :: _ => .error .expectedObjectSeparator := by
  rw [moreMembers.eq_def]
  split
  · next hb => simp only [hb, view_error]
  · next hb => simp only [hb, view_ok]
  · next hb =>
    simp only [hb]
    split
    · next hq => simp only [hq, view_error]
    · next rest' hq =>
      simp only [hq]
      cases member step s rest' with
      | error e => rfl
      | ok r =>
        simp only [view_ok, ok_bind]
        cases moreMembers step r.value r.rest <;> rfl
    · next hq => simp only [hq, view_error]
    · next hq => simp only [hq, view_error]
  · next hb => simp only [hb, view_error]

theorem view_moreMembers_close (step : σ → String → Reader σ) (s : σ) (b : Blanks) (rest : List Char) :
    view (moreMembers step s (b.chars ++ '\x7d' :: rest)) = .ok (s, rest) := by
  rw [view_moreMembers, b.skip]
  rfl

theorem view_moreMembers_comma (step : σ → String → Reader σ) (s : σ) (b b' : Blanks) (cs : List Char) :
    view (moreMembers step s (b.chars ++ ',' :: (b'.chars ++ '"' :: cs))) =
      view (member step s cs) >>= fun r => view (moreMembers step r.1 r.2) := by
  have hnext : skipBlanks (b'.chars ++ '"' :: cs) = '"' :: cs := by rw [b'.skip, skipBlanks_of_not_blank rfl]
  rw [view_moreMembers, b.skip, skipBlanks_of_not_blank rfl]
  simp only [hnext]

/-- One member, with the signs of its name. -/
def foldMember (next : σ → String → Spelling → Except Error σ) (s : σ) (m : List Glyph × Spelling) : Except Error σ :=
  Glyph.text m.1 >>= fun key => next s key m.2

theorem view_member {step : σ → String → Reader σ} {next : σ → String → Spelling → Except Error σ} {v : Spelling}
    {k : List Glyph} (hstep : ∀ s key, Glyph.text k = .ok key → ReadsMember (step s key) v (next s key v)) (s : σ)
    (a b : Blanks) (h : EndsNumeral rest) :
    view (member step s (k.flatMap Glyph.chars ++ '"' :: (a.chars ++ ':' :: (b.chars ++ (v.chars ++ rest))))) =
      (fun s' => (s', rest)) <$> foldMember next s (k, v) := by
  rw [member, view_bind, view_quotedString, foldMember]
  cases hk : Glyph.text k with
  | error e => rfl
  | ok key => exact hstep s key hk a b h

theorem view_member_moreMembers {step : σ → String → Reader σ} {next : σ → String → Spelling → Except Error σ}
    (members : Members)
    (hstep : ∀ m ∈ members.toList, ∀ s key, Glyph.text m.1 = .ok key → ReadsMember (step s key) m.2 (next s key m.2))
    (s : σ) (rest : List Char) :
    (view (member step s (members.unquoted ('\x7d' :: rest))) >>= fun r => view (moreMembers step r.1 r.2)) =
      (fun s' => (s', rest)) <$> members.toList.foldlM (foldMember next) s :=
  match members with
  | .one k b v a => by
    have hend := (EndsNumeral.cons (.inr (.inr rfl)) rest).after_blanks a
    have hfirst := view_member (hstep _ List.mem_cons_self) s k.after b hend
    rw [Members.unquoted, hfirst]
    cases hn : foldMember next s (k.name, v) with
    | error e => simp [Members.toList, hn]
    | ok s' => simp [Members.toList, hn, view_moreMembers_close]
  | .cons k b v a more => by
    have hend := (EndsNumeral.cons (.inl rfl) (more.chars ++ '\x7d' :: rest)).after_blanks a
    have hfirst := view_member (hstep _ List.mem_cons_self) s k.after b hend
    have ih := view_member_moreMembers more fun m hm => hstep m (List.mem_cons_of_mem _ hm)
    rw [Members.unquoted, hfirst, Members.toList, List.foldlM_cons]
    cases foldMember next s (k.name, v) with
    | error e => rfl
    | ok s' =>
      rw [Except.map_ok, ok_bind, ok_bind, more.append, view_moreMembers_comma]
      exact ih s' rest

/-- **The members of an object are read one by one,** and its closing brace after them. -/
theorem view_members {step : σ → String → Reader σ} (next : σ → String → Spelling → Except Error σ) {members : Members}
    (hstep : ∀ m ∈ members.toList, ∀ s key, Glyph.text m.1 = .ok key → ReadsMember (step s key) m.2 (next s key m.2))
    (s : σ) (rest : List Char) :
    view (Reader.members step s (members.chars ++ '\x7d' :: rest)) =
      (fun s' => (s', rest)) <$> members.toList.foldlM (foldMember next) s := by
  rw [← view_member_moreMembers members hstep, Reader.members, view_afterBlanks, members.append, members.before.skip,
    skipBlanks_of_not_blank rfl]
  exact (view_past ..).trans (view_bind ..)

theorem view_members_empty (step : σ → String → Reader σ) (s : σ) (b : Blanks) (rest : List Char) :
    view (Reader.members step s (b.chars ++ '\x7d' :: rest)) = .ok (s, rest) := by
  rw [Reader.members, view_afterBlanks, b.skip, skipBlanks_of_not_blank rfl]
  rfl

end Reader

/-! ## Arrays by their items -/

/-- The value is an array with these items in their order. -/
def Spelling.HasItems (v : Spelling) (vs : List Spelling) : Prop :=
  match v with
  | .emptyArray _ => vs = []
  | .array items => items.toList = vs
  | _ => False

/-- **An array is read item by item.** -/
theorem reads_array {p : Reader σ} {step : σ → Reader σ} {s : σ} {next : σ → Spelling → Except Error σ} {v : Spelling}
    {vs : List Spelling}
    (hp : ∀ (b : Blanks) (cs : List Char), view (p (b.chars ++ '[' :: cs)) = view (Reader.items step s cs))
    (h : v.HasItems vs) (hstep : ∀ v ∈ vs, ∀ s, Reads (step s) v (next s v)) : Reads p v (vs.foldlM next s) := by
  intro b rest _
  cases v with
  | emptyArray inner =>
    obtain rfl : vs = [] := h
    rw [Spelling.emptyArray_append, hp, Reader.view_items_empty]
    rfl
  | array items =>
    obtain rfl : items.toList = vs := h
    rw [Spelling.array_append, hp, Reader.view_items next hstep]
  | _ => exact h.elim

theorem Items.map_value {items : Items} {xs : List Value} (h : items.values = .ok xs) :
    items.toList.map Spelling.value = xs.map .ok :=
  match items with
  | .one b v a => by
    obtain ⟨x, hv, rfl⟩ := map_eq_ok.1 h
    simp [Items.toList, hv]
  | .cons b v a more => by
    rw [Items.values] at h
    obtain ⟨x, hv, h⟩ := bind_eq_ok.1 h
    obtain ⟨rest, hm, h⟩ := bind_eq_ok.1 h
    cases h
    simp [Items.toList, hv, Items.map_value hm]

/-- A value that is an array has its items. -/
theorem Spelling.exists_hasItems {v : Spelling} {xs : List Value} (h : v.value = .ok (.array xs)) :
    ∃ vs, v.HasItems vs ∧ vs.map Spelling.value = xs.map .ok := by
  cases v with
  | emptyArray inner =>
    cases h
    exact ⟨[], rfl, rfl⟩
  | array items =>
    obtain ⟨ys, hys, hxs⟩ := map_eq_ok.1 h
    cases hxs
    exact ⟨items.toList, rfl, Items.map_value hys⟩
  | number n => obtain ⟨_, ⟨⟩⟩ := Spelling.exists_number h
  | _ => simp [Spelling.value] at h

/-! ## Objects by their members -/

/-- The value is an object with these members in their order, the names as texts. -/
def Spelling.HasMembers (v : Spelling) (ms : List (String × Spelling)) : Prop :=
  match v with
  | .emptyObject _ => ms = []
  | .object members => members.toList.map (fun m => (Glyph.text m.1, m.2)) = ms.map fun m => (.ok m.1, m.2)
  | _ => False

/-- When the names can be read, the fold over the members is a fold over names and values. -/
theorem foldlM_foldMember {next : σ → String → Spelling → Except Error σ} {l : List (List Glyph × Spelling)}
    {ms : List (String × Spelling)} (h : l.map (fun m => (Glyph.text m.1, m.2)) = ms.map fun m => (.ok m.1, m.2)) (s : σ) :
    l.foldlM (Reader.foldMember next) s = ms.foldlM (fun s m => next s m.1 m.2) s := by
  induction l generalizing ms s with
  | nil =>
    cases ms with
    | nil => rfl
    | cons => cases h
  | cons m l ih =>
    cases ms with
    | nil => cases h
    | cons x ms =>
      simp only [List.map_cons, List.cons.injEq, Prod.mk.injEq] at h
      obtain ⟨⟨hname, hvalue⟩, hrest⟩ := h
      rw [List.foldlM_cons, List.foldlM_cons, Reader.foldMember, hname, hvalue, ok_bind]
      exact congrArg _ (funext fun s => ih hrest s)

/-- A member whose name can be read stands among the names and values. -/
theorem mem_of_text {l : List (List Glyph × Spelling)} {ms : List (String × Spelling)}
    (h : l.map (fun m => (Glyph.text m.1, m.2)) = ms.map fun m => (.ok m.1, m.2)) {m : List Glyph × Spelling} (hm : m ∈ l)
    {key : String} (hkey : Glyph.text m.1 = .ok key) : (key, m.2) ∈ ms := by
  have hmem := List.mem_map_of_mem (f := fun m => (Glyph.text m.1, m.2)) hm
  rw [h, List.mem_map] at hmem
  obtain ⟨x, hx, he⟩ := hmem
  rw [hkey, Prod.mk.injEq, Except.ok.injEq] at he
  rwa [← he.1, ← he.2]

/-- **An object is read member by member,** each one under its own name, and what comes of them is checked. -/
theorem reads_object {α : Type} {p : Reader α} {step : σ → String → Reader σ} {s : σ} {f : σ → Except Error α}
    {next : σ → String → Spelling → Except Error σ} {v : Spelling} {ms : List (String × Spelling)}
    (hp : ∀ (b : Blanks) (cs : List Char),
      view (p (b.chars ++ '\x7b' :: cs)) = view (((Reader.members step s).check f) cs))
    (h : v.HasMembers ms) (hstep : ∀ m ∈ ms, ∀ s, ReadsMember (step s m.1) m.2 (next s m.1 m.2)) :
    Reads p v (ms.foldlM (fun s m => next s m.1 m.2) s >>= f) := by
  intro b rest _
  cases v with
  | emptyObject inner =>
    obtain rfl : ms = [] := h
    rw [Spelling.emptyObject_append, hp, Reader.view_check, Reader.view_members_empty]
    rfl
  | object members =>
    have hown (m) (hm : m ∈ members.toList) (s) (key) (hkey : Glyph.text m.1 = .ok key) :=
      hstep _ (mem_of_text h hm hkey) s
    rw [Spelling.object_append, hp, Reader.view_check, Reader.view_members next hown, foldlM_foldMember h]
    cases ms.foldlM (fun s m => next s m.1 m.2) s <;> rfl
  | _ => exact h.elim

theorem Members.exists_named {members : Members} {xs : List (String × Value)} (h : members.entries = .ok xs) :
    ∃ ms : List (String × Spelling),
      members.toList.map (fun m => (Glyph.text m.1, m.2)) = (ms.map fun m => (.ok m.1, m.2)) ∧
        (ms.map fun m => (m.1, m.2.value)) = xs.map fun x => (x.1, .ok x.2) :=
  match members with
  | .one k b v a => by
    rw [Members.entries] at h
    obtain ⟨name, hk, h⟩ := bind_eq_ok.1 h
    obtain ⟨x, hv, h⟩ := bind_eq_ok.1 h
    cases h
    exact ⟨[(name, v)], by simp [Members.toList, hk], by simp [hv]⟩
  | .cons k b v a more => by
    rw [Members.entries] at h
    obtain ⟨name, hk, h⟩ := bind_eq_ok.1 h
    obtain ⟨x, hv, h⟩ := bind_eq_ok.1 h
    obtain ⟨rest, hm, h⟩ := bind_eq_ok.1 h
    cases h
    obtain ⟨ms, hnames, hvalues⟩ := Members.exists_named hm
    exact ⟨(name, v) :: ms, by simp [Members.toList, hk, hnames], by simp [hv, hvalues]⟩

/-- A value that is an object has its members. -/
theorem Spelling.exists_hasMembers {v : Spelling} {xs : List (String × Value)} (h : v.value = .ok (.object xs)) :
    ∃ ms, v.HasMembers ms ∧ (ms.map fun m => (m.1, m.2.value)) = xs.map fun x => (x.1, .ok x.2) := by
  cases v with
  | emptyObject inner =>
    cases h
    exact ⟨[], rfl, rfl⟩
  | object members =>
    obtain ⟨ys, hys, hxs⟩ := map_eq_ok.1 h
    cases hxs
    exact Members.exists_named hys
  | number n => obtain ⟨_, ⟨⟩⟩ := Spelling.exists_number h
  | _ => simp [Spelling.value] at h

/-! ## Values of any type -/

theorem Items.depth_le {items : Items} {v : Spelling} (h : v ∈ items.toList) : v.depth ≤ items.depth :=
  match items with
  | .one b w a => by
    obtain rfl := List.mem_singleton.1 h
    exact Nat.le_refl _
  | .cons b w a more => by
    rw [Items.depth]
    obtain rfl | h := List.mem_cons.1 h
    · exact Nat.le_max_left ..
    · exact Nat.le_trans (Items.depth_le h) (Nat.le_max_right ..)

theorem Members.depth_le {members : Members} {m : List Glyph × Spelling} (h : m ∈ members.toList) :
    m.2.depth ≤ members.depth :=
  match members with
  | .one k b w a => by
    obtain rfl := List.mem_singleton.1 h
    exact Nat.le_refl _
  | .cons k b w a more => by
    rw [Members.depth]
    obtain rfl | h := List.mem_cons.1 h
    · exact Nat.le_max_left ..
    · exact Nat.le_trans (Members.depth_le h) (Nat.le_max_right ..)

/-- A member is nested less deep than its object. -/
theorem Spelling.HasMembers.depth_lt {v : Spelling} {ms : List (String × Spelling)} (h : v.HasMembers ms)
    {x : String × Spelling} (hx : x ∈ ms) : x.2.depth < v.depth := by
  cases v with
  | emptyObject inner =>
    obtain rfl : ms = [] := h
    cases hx
  | object members =>
    have hmem : (.ok x.1, x.2) ∈ members.toList.map fun m => (Glyph.text m.1, m.2) := by
      rw [h]
      exact List.mem_map_of_mem hx
    obtain ⟨m, hm, he⟩ := List.mem_map.1 hmem
    rw [← (Prod.mk.inj he).2, depth]
    exact Nat.lt_succ_of_le (Members.depth_le hm)
  | _ => exact h.elim

theorem Items.foldlM_value (items : Items) (read : List Value) :
    items.toList.foldlM (fun read v => (· :: read) <$> v.value) read =
      (fun xs => xs.reverse ++ read) <$> items.values := by
  cases items with
  | one b v a => simp [Items.toList, Items.values]
  | cons b v a more =>
    have ih := fun x => more.foldlM_value (x :: read)
    simp [Items.toList, Items.values, ih]

/-- Puts a member on a list of members that are read. -/
def pushMember (read : List (String × Value)) (key : String) (v : Spelling) : Except Error (List (String × Value)) :=
  (fun x => (key, x) :: read) <$> v.value

theorem Members.foldlM_value (members : Members) (read : List (String × Value)) :
    members.toList.foldlM (Reader.foldMember pushMember) read =
      (fun xs => xs.reverse ++ read) <$> members.entries := by
  cases members with
  | one k b v a => simp [Members.toList, Members.entries, Reader.foldMember, pushMember]
  | cons k b v a more =>
    have ih := fun x => more.foldlM_value (x :: read)
    simp [Members.toList, Members.entries, Reader.foldMember, pushMember, ih]

theorem view_value_scalar (depth : Nat) (b : Blanks) {v : Spelling} (hv : v.isScalar = true) (h : EndsNumeral rest) :
    view (Reader.value depth (b.chars ++ (v.chars ++ rest))) = (fun x => (x, rest)) <$> v.value := by
  have hscalar := view_scalar hv h
  -- What can be skipped as a scalar does not begin with a bracket.
  have hskip := skipScalar_chars hv h
  obtain ⟨c, cs, hc, hblank, -⟩ := v.exists_chars_eq_cons
  rw [hc, List.cons_append] at hscalar hskip ⊢
  rw [← hscalar, Reader.value.eq_def, Reader.view_afterBlanks, b.skip, skipBlanks_of_not_blank hblank]
  generalize c :: (cs ++ rest) = ds at hskip ⊢
  split
  · cases hskip
  · cases hskip
  · rfl

theorem view_value_array (depth : Nat) (b : Blanks) (cs : List Char) :
    view (Reader.value (depth + 1) (b.chars ++ '[' :: cs)) = (fun r => (.array r.1.reverse, r.2)) <$>
      view (Reader.items (fun read => (Reader.value depth).map (· :: read)) [] cs) := by
  rw [Reader.value, Reader.view_afterBlanks, b.skip, skipBlanks_of_not_blank rfl]
  exact (Reader.view_past ..).trans (Reader.view_map ..)

theorem view_value_object (depth : Nat) (b : Blanks) (cs : List Char) :
    view (Reader.value (depth + 1) (b.chars ++ '\x7b' :: cs)) = (fun r => (.object r.1.reverse, r.2)) <$>
      view (Reader.members
        (fun read key => (Reader.afterColon (Reader.value depth)).map fun v => (key, v) :: read) [] cs) := by
  rw [Reader.value, Reader.view_afterBlanks, b.skip, skipBlanks_of_not_blank rfl]
  exact (Reader.view_past ..).trans (Reader.view_map ..)

/-- **A value is read as the value that is meant,** if it is not nested too deep. -/
theorem reads_value (depth : Nat) (v : Spelling) (hd : v.depth ≤ depth) : Reads (Reader.value depth) v v.value := by
  induction depth generalizing v with
  | zero =>
    refine fun b _ => view_value_scalar 0 b ?_
    cases v <;> first | rfl | simp [Spelling.depth] at hd
  | succ depth ih =>
    intro b rest h
    cases v with
    | emptyArray inner =>
      rw [Spelling.emptyArray_append, view_value_array, Reader.view_items_empty]
      rfl
    | array items =>
      have hitem (w) (hw : w ∈ items.toList) (read : List Value) :=
        (ih w (Nat.le_trans (Items.depth_le hw) (Nat.le_of_succ_le_succ hd))).map (· :: read)
      rw [Spelling.array_append, view_value_array, Reader.view_items _ hitem, Items.foldlM_value, Spelling.value]
      cases items.values <;> simp
    | emptyObject inner =>
      rw [Spelling.emptyObject_append, view_value_object, Reader.view_members_empty]
      rfl
    | object members =>
      have hmember (m) (hm : m ∈ members.toList) (read : List (String × Value)) (key : String) (_ : Glyph.text m.1 = .ok key) :=
        (ih m.2 (Nat.le_trans (Members.depth_le hm) (Nat.le_of_succ_le_succ hd))).afterColon.map fun v => (key, v) :: read
      rw [Spelling.object_append, view_value_object, Reader.view_members pushMember hmember, Members.foldlM_value,
        Spelling.value]
      cases members.entries <;> simp
    | _ => exact view_value_scalar _ b rfl h

end CiMessage.Json
